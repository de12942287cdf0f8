import Mathlib.Data.List.Sort

/-! The JavaScript the frontend's store relies on: strings as sequences of UTF-16 code
units, the values a `DisplayLock` holds, the relational comparison `<` and strict equality
`===` on them, and `Array.prototype.sort` given by what ECMAScript fixes of it. An engine
is free in how it sorts; it must return a permutation, and when the comparator is
consistent for the array's elements, the one stable order it determines. -/
namespace Kuberpult.Frontend

/-- A JavaScript string: a sequence of UTF-16 code units. -/
abbrev JSString := List UInt16

/-- The UTF-16 code units of a character: one below `U+10000`, a surrogate pair above. -/
def utf16 (c : Char) : List UInt16 :=
  if c.val < 0x10000 then [c.val.toUInt16]
  else [(0xD800 + (c.val - 0x10000) / 0x400).toUInt16, (0xDC00 + (c.val - 0x10000) % 0x400).toUInt16]

/-- A string literal of the source, as JavaScript holds it. -/
def toJSString (s : String) : JSString := s.data.flatMap utf16

/-- A `Date` object, by its time value: milliseconds since the epoch, or none for an
invalid date, whose time value is NaN. -/
structure JsDate where
  time : Option Int
  deriving DecidableEq, Repr

/-- The values a `DisplayLock` holds: `undefined`, a string, or a `Date`. -/
inductive JSValue where
  | undefined
  | string (s : JSString)
  | date (d : JsDate)
  deriving DecidableEq, Repr

/-- `x instanceof Date`. -/
def JSValue.isDate : JSValue → Bool
  | .date _ => true
  | _ => false

/-- ECMAScript's IsLessThan on two strings: a proper prefix is less; otherwise the first
code unit that differs decides. -/
def stringLess : JSString → JSString → Bool
  | _, [] => false
  | [], _ :: _ => true
  | m :: px, n :: py => if m = n then stringLess px py else m < n

/-- The relational comparison `x < y` (IsLessThan) on the values of a `DisplayLock`. Two
strings compare by code units. Otherwise both sides become numbers, a `Date` its time
value and `undefined` NaN, and a comparison with NaN is false. A string and a `Date` never
meet: the values compared stand at the same position of two DisplayLocks of one kind. -/
def lessThan : JSValue → JSValue → Bool
  | .string a, .string b => stringLess a b
  | .date ⟨some x⟩, .date ⟨some y⟩ => decide (x < y)
  | _, _ => false

/-- Strict equality `x === y` on the values that stand last in a `DisplayLock`, an e-mail
address or `undefined`. -/
def strictEquals : JSValue → JSValue → Bool
  | .undefined, .undefined => true
  | .string a, .string b => decide (a = b)
  | _, _ => false

/-! ## Sorting -/

section Sorting

variable {α : Type}

/-- ECMAScript's consistent comparator for the elements of a list: equivalence, written
`cmp a b = 0`, is reflexive, symmetric and transitive, and so are `cmp a b < 0` and
`cmp a b > 0` (transitive). -/
def Consistent (cmp : α → α → Int) (xs : List α) : Prop :=
  ∀ a ∈ xs, ∀ b ∈ xs, ∀ c ∈ xs, cmp a a = 0 ∧ (cmp a b = 0 → cmp b a = 0) ∧
    (cmp a b = 0 → cmp b c = 0 → cmp a c = 0) ∧ (cmp a b < 0 → cmp b c < 0 → cmp a c < 0) ∧
    (0 < cmp a b → 0 < cmp b c → 0 < cmp a c)

instance Consistent.decidable (cmp : α → α → Int) (xs : List α) : Decidable (Consistent cmp xs) :=
  inferInstanceAs (Decidable (∀ a ∈ xs, ∀ b ∈ xs, ∀ c ∈ xs, _))

/-- ECMAScript's CompareArrayElements, with `none` for `undefined`: `undefined` sorts after
every other value, and `comparefn` is called only on two values that are not `undefined`. -/
def compareArrayElements (cmp : α → α → Int) : Option α → Option α → Int
  | none, none => 0
  | none, some _ => 1
  | some _, none => -1
  | some a, some b => cmp a b

/-- A comparator consistent for the values that are not `undefined` stays consistent once
CompareArrayElements puts `undefined` last. -/
theorem Consistent.compareArrayElements {cmp : α → α → Int} {xs : List (Option α)}
    (consistent : Consistent cmp (xs.filterMap id)) : Consistent (compareArrayElements cmp) xs := by
  intro a ha b hb c hc
  have defined {x : α} (mem : some x ∈ xs) : x ∈ xs.filterMap id := List.mem_filterMap.2 ⟨_, mem, rfl⟩
  have refl {x : α} (mem : some x ∈ xs) : cmp x x = 0 :=
    (consistent x (defined mem) x (defined mem) x (defined mem)).1
  have symm {x y : α} (hx : some x ∈ xs) (hy : some y ∈ xs) : cmp x y = 0 → cmp y x = 0 :=
    (consistent x (defined hx) y (defined hy) y (defined hy)).2.1
  rcases a with _ | a <;> rcases b with _ | b <;> rcases c with _ | c
  case some.some.some => exact consistent a (defined ha) b (defined hb) c (defined hc)
  case some.some.none => simpa [Frontend.compareArrayElements, refl ha] using symm ha hb
  all_goals simp [Frontend.compareArrayElements, refl, ha, hb, hc]

end Sorting

/-- An engine's `Array.prototype.sort(comparefn)`, by what ECMAScript fixes of it. The
result is a permutation of the array. When `comparefn` is a consistent comparator for the
array's elements the sort is stable and sorted by it, which leaves one order, the one
insertion sort gives; otherwise the order is the engine's. -/
structure ArraySort where
  sort : {α : Type} → (α → α → Int) → List α → List α
  perm : ∀ {α : Type} (cmp : α → α → Int) (xs : List α), (sort cmp xs).Perm xs
  consistent : ∀ {α : Type} (cmp : α → α → Int) (xs : List α), Consistent cmp xs →
    sort cmp xs = xs.insertionSort fun a b => cmp a b ≤ 0

/-- Insertion sort, one engine that meets the contract. -/
def insertionEngine : ArraySort where
  sort cmp xs := xs.insertionSort fun a b => cmp a b ≤ 0
  perm _ xs := List.perm_insertionSort _ xs
  consistent _ _ _ := rfl

end Kuberpult.Frontend
