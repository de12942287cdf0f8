import Mathlib.Data.List.Basic
import Kuberpult.Error

/-! Paths inside the manifest tree. The Go code builds every path with billy's `Join`,
which is `filepath.Join`: the elements are split at `/`, empty and `.` elements vanish,
and `..` removes the element before it. A path here is the list of names that remains,
and `join` computes it. Directory entries are `IsName` strings, and `join` keeps a list
of names as it is (`join_names`). -/
namespace Kuberpult

/-- A path from the root of the tree, as its list of elements. -/
abbrev Path := List String

/-- How the code prints a path in its messages: the elements between slashes. -/
def Path.text (p : Path) : String := "/".intercalate p

/-- The parts of a string between its slashes. -/
def splitSlash : List Char → List (List Char)
  | [] => [[]]
  | c :: cs =>
    if c = '/' then [] :: splitSlash cs
    else match splitSlash cs with
      | word :: words => (c :: word) :: words
      | [] => [[c]]

/-- One element of `filepath.Clean`, over the path built so far, last element first:
empty and `.` elements vanish, `..` removes the element before it and is kept when
there is none to remove. -/
def cleanStep (built : Path) (part : String) : Path :=
  if part = "" ∨ part = "." then built
  else if part = ".." then
    match built with
    | name :: rest => if name = ".." then ".." :: built else rest
    | [] => [".."]
  else part :: built

/-- Go's `filepath.Join(elem...)` for relative elements, as billy's `Join` calls it. -/
def join (elems : List String) : Path :=
  ((elems.flatMap fun elem => (splitSlash elem.data).map String.mk).foldl cleanStep []).reverse

/-- A single path element that `join` keeps as it is: not empty, not `.` or `..`, and
without a slash. -/
def IsName (s : String) : Prop := s ≠ "" ∧ s ≠ "." ∧ s ≠ ".." ∧ '/' ∉ s.data

instance (s : String) : Decidable (IsName s) :=
  inferInstanceAs (Decidable (_ ∧ _ ∧ _ ∧ _))

theorem splitSlash_of_not_mem {cs : List Char} (noSlash : '/' ∉ cs) : splitSlash cs = [cs] := by
  induction cs with
  | nil => rfl
  | cons c cs ih =>
    have other : c ≠ '/' := fun same => noSlash (same ▸ List.mem_cons_self _ _)
    simp [splitSlash, other, ih (fun mem => noSlash (List.mem_cons_of_mem _ mem))]

theorem cleanStep_name {name : String} (named : IsName name) (built : Path) :
    cleanStep built name = name :: built := by
  obtain ⟨nonEmpty, notDot, notDotDot, -⟩ := named
  simp [cleanStep, nonEmpty, notDot, notDotDot]

theorem foldl_cleanStep_names {names : Path} (named : ∀ name ∈ names, IsName name)
    (built : Path) : names.foldl cleanStep built = names.reverse ++ built := by
  induction names generalizing built with
  | nil => rfl
  | cons name names ih =>
    rw [List.foldl_cons, cleanStep_name (named name (List.mem_cons_self _ _)),
      ih (fun n mem => named n (List.mem_cons_of_mem _ mem))]
    simp

/-- Joining names changes nothing. -/
theorem join_names {names : Path} (named : ∀ name ∈ names, IsName name) :
    join names = names := by
  have split : (names.flatMap fun elem => (splitSlash elem.data).map String.mk) = names := by
    induction names with
    | nil => rfl
    | cons name names ih =>
      simp only [List.flatMap_cons,
        splitSlash_of_not_mem (named name (List.mem_cons_self _ _)).2.2.2]
      simp [ih (fun n mem => named n (List.mem_cons_of_mem _ mem))]
  rw [join, split, foldl_cleanStep_names named]
  simp

/-- A name joined last stays last. -/
theorem join_append_name (elems : List String) {name : String} (named : IsName name) :
    join (elems ++ [name]) = join elems ++ [name] := by
  simp only [join, List.flatMap_append, List.flatMap_singleton, splitSlash_of_not_mem named.2.2.2,
    List.map_singleton, List.foldl_append, List.foldl_cons, List.foldl_nil, cleanStep_name named,
    List.reverse_cons]

/-- The file name `<name>.yaml` of a name is a name. -/
theorem IsName.yaml {name : String} (named : IsName name) : IsName (name ++ ".yaml") := by
  have five : ".yaml".length = 5 := rfl
  have short : ∀ s : String, s.length < 3 → name ++ ".yaml" ≠ s := fun s shorter same => by
    have lengths := congrArg String.length same
    rw [String.length_append, five] at lengths
    omega
  exact ⟨short "" (by decide), short "." (by decide), short ".." (by decide),
    by simp [String.data_append, named.2.2.2]⟩

end Kuberpult
