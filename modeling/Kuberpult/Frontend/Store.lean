import Kuberpult.Frontend.Js

/-! The lock lists of the frontend's store (store.tsx). `useEnvironmentLocks` and
`useApplicationLocks` read the overview through `useOverview`; what they compute is the
selector each passes, modelled here as a function of the overview and of the engine's
`Array.prototype.sort`. The environment locks are every lock of every environment, one row
each (`useEnvironmentLocks_perm`). The application locks are only those of the first
application with a lock in each environment, since `.map(displayLock => displayLock[0])`
keeps one list per environment (`useApplicationLocks_perm`). `sortLocks`' comparator stops
at the first field whenever the last fields, the authors' e-mail addresses, are equal. On
rows whose dates are valid and pairwise different it is consistent, and every engine puts
them newest first (`sortLocks_dated`). -/
namespace Kuberpult.Frontend

/-! ## The overview -/

/-- Who created a lock, the API's `Actor`. -/
structure Actor where
  name : JSString
  email : JSString
  deriving DecidableEq, Repr

/-- A lock as the overview gives it: the fields of the API's `Lock` the store reads. -/
structure Lock where
  lockId : JSString
  message : JSString
  createdAt : Option JsDate
  createdBy : Option Actor
  deriving DecidableEq, Repr

/-- An application of an environment: its name, and its locks in the order
`Object.values` lists them. -/
structure Application where
  name : JSString
  locks : List Lock
  deriving DecidableEq, Repr

/-- An environment of the overview: its name, its locks and its applications, each in
the order `Object.values` lists them. -/
structure Environment where
  name : JSString
  locks : List Lock
  applications : List Application
  deriving DecidableEq, Repr

/-- The part of `GetOverviewResponse` the lock lists read: its environments, in the order
`Object.values` lists them. -/
structure Overview where
  environments : List Environment
  deriving DecidableEq, Repr

/-! ## Rows and their order -/

/-- A row of the lock lists, the API's `DisplayLock`, with its properties in the order the
store's object literals create them; `application` is there only in an application's
lock. -/
structure DisplayLock where
  date : Option JsDate
  application : Option JSString
  environment : JSString
  lockId : JSString
  message : JSString
  authorName : Option JSString
  authorEmail : Option JSString
  deriving DecidableEq, Repr

/-- A string property that may be `undefined`. -/
def optionalString : Option JSString → JSValue
  | none => .undefined
  | some s => .string s

/-- `Object.values(displayLock)`. -/
def DisplayLock.values (d : DisplayLock) : List JSValue :=
  [d.date.elim .undefined .date] ++ (d.application.map JSValue.string).toList ++
    [.string d.environment, .string d.lockId, .string d.message, optionalString d.authorName,
      optionalString d.authorEmail]

/-- The loop of `sortLocks`' comparator from index `i` on: `aValues` and `bValues` hold the
values from `i`, and `lastEqual` is `aValues[aValues.length - 1] ===
bValues[aValues.length - 1]`, which the loop checks at every index. A value past the end
of `bValues` is `undefined`. -/
def compareFrom (sortMethod : Int) (lastEqual : Bool) : List JSValue → List JSValue → Int
  | [], _ => 0
  | x :: aValues, bValues =>
    let y := bValues.headD .undefined
    if lessThan x y then (if x.isDate then -sortMethod else sortMethod)
    else if lessThan y x then (if x.isDate then sortMethod else -sortMethod)
    else if lastEqual then 0
    else compareFrom sortMethod lastEqual aValues bValues.tail

/-- The comparator `sortLocks` passes to `Array.prototype.sort`. -/
def lockComparator (sortMethod : Int) (a b : DisplayLock) : Int :=
  compareFrom sortMethod
    (strictEquals (a.values.getLastD .undefined) (b.values.getD (a.values.length - 1) .undefined))
    a.values b.values

/-- `sortLocks(displayLocks, sorting)`: sort in place by the comparator, dates first. -/
def sortLocks (engine : ArraySort) (displayLocks : List DisplayLock) (sorting : JSString) : List DisplayLock :=
  let sortMethod : Int := if sorting = toJSString "descending" then -1 else 1
  engine.sort (lockComparator sortMethod) displayLocks

theorem sortLocks_perm (engine : ArraySort) (displayLocks : List DisplayLock) (sorting : JSString) :
    (sortLocks engine displayLocks sorting).Perm displayLocks :=
  engine.perm _ _

/-- Sorting `'descending'` with a comparator consistent for the rows has one result, the
stable order of the comparator with `sortMethod = -1`. -/
theorem sortLocks_descending (engine : ArraySort) {displayLocks : List DisplayLock}
    (consistent : Consistent (lockComparator (-1)) displayLocks) :
    sortLocks engine displayLocks (toJSString "descending") =
      displayLocks.insertionSort fun a b => lockComparator (-1) a b ≤ 0 := by
  unfold sortLocks
  rw [if_pos rfl]
  exact engine.consistent _ _ consistent

/-- When the first values do not compare either way and the last values are strictly
equal, the comparator calls the two rows equivalent, whatever lies between. -/
theorem compareFrom_lastEqual (sortMethod : Int) {x y : JSValue} {aValues bValues : List JSValue}
    (unordered : lessThan x y = false ∧ lessThan y x = false) :
    compareFrom sortMethod true (x :: aValues) (y :: bValues) = 0 := by
  simp [compareFrom, unordered]

/-- A string property is strictly equal to itself, `undefined` included. -/
theorem strictEquals_optionalString (s : Option JSString) : strictEquals (optionalString s) (optionalString s) = true := by
  cases s <;> simp [optionalString, strictEquals]

/-- Two rows of one kind whose dates do not compare either way (equal, or one missing) and
whose authors have the same e-mail address are equivalent for the comparator, whatever
their environments, applications, ids and messages. -/
theorem lockComparator_same_email (sortMethod : Int) {a b : DisplayLock}
    (kind : a.application.isSome = b.application.isSome)
    (unordered : lessThan (a.date.elim .undefined .date) (b.date.elim .undefined .date) = false ∧
      lessThan (b.date.elim .undefined .date) (a.date.elim .undefined .date) = false)
    (sameEmail : a.authorEmail = b.authorEmail) : lockComparator sortMethod a b = 0 := by
  unfold lockComparator DisplayLock.values
  rcases a with ⟨_, _ | _, _, _, _, _, _⟩ <;> rcases b with ⟨_, _ | _, _, _, _, _, _⟩ <;>
    simp only [Option.isSome_none, Option.isSome_some, reduceCtorEq] at kind <;>
    subst sameEmail <;>
    simp [strictEquals_optionalString, compareFrom_lastEqual sortMethod unordered]

/-- Every row is equivalent to itself. -/
theorem lockComparator_self (sortMethod : Int) (a : DisplayLock) : lockComparator sortMethod a a = 0 := by
  have unordered : lessThan (a.date.elim .undefined .date) (a.date.elim .undefined .date) = false := by
    rcases a.date with _ | ⟨_ | _⟩ <;> simp [lessThan]
  exact lockComparator_same_email sortMethod rfl ⟨unordered, unordered⟩ rfl

/-- Two rows with valid dates compare by date alone when the dates differ, the newer first. -/
theorem lockComparator_dated {a b : DisplayLock} {ta tb : Int} (datedA : a.date = some ⟨some ta⟩)
    (datedB : b.date = some ⟨some tb⟩) (different : ta ≠ tb) :
    lockComparator (-1) a b = if ta < tb then 1 else -1 := by
  unfold lockComparator
  simp only [DisplayLock.values, datedA, datedB, Option.elim, List.cons_append]
  by_cases newer : ta < tb
  · simp [compareFrom, lessThan, JSValue.isDate, newer]
  · have older : tb < ta := by omega
    simp [compareFrom, lessThan, JSValue.isDate, newer, older]

/-- Rows with valid, pairwise different dates come out newest first, for every engine: on
them the comparator is consistent and compares by date alone. -/
theorem sortLocks_dated (engine : ArraySort) {displayLocks : List DisplayLock} (time : DisplayLock → Int)
    (dated : ∀ a ∈ displayLocks, a.date = some ⟨some (time a)⟩) (distinct : (displayLocks.map time).Nodup) :
    ((sortLocks engine displayLocks (toJSString "descending")).map time).Sorted (· > ·) := by
  have byDate : ∀ a ∈ displayLocks, ∀ b ∈ displayLocks, time a = time b ∧ lockComparator (-1) a b = 0 ∨
      time a < time b ∧ lockComparator (-1) a b = 1 ∨ time b < time a ∧ lockComparator (-1) a b = -1 := by
    intro a ha b hb
    by_cases same : time a = time b
    · rw [List.inj_on_of_nodup_map distinct ha hb same, lockComparator_self]; simp
    · rw [lockComparator_dated (dated a ha) (dated b hb) same]
      split <;> omega
  have consistent : Consistent (lockComparator (-1)) displayLocks := by
    intro a ha b hb c hc
    have ab := byDate a ha b hb
    refine ⟨lockComparator_self _ a, fun _ => by have := byDate b hb a ha; omega, ?_, ?_, ?_⟩ <;>
      have bc := byDate b hb c hc <;> have ac := byDate a ha c hc <;> omega
  have order : ∀ a ∈ displayLocks, ∀ b ∈ displayLocks, lockComparator (-1) a b ≤ 0 ↔ time a ≥ time b := by
    intro a ha b hb
    have := byDate a ha b hb
    omega
  rw [sortLocks_descending engine consistent, List.map_insertionSort _ (· ≥ ·) time _ order]
  exact (List.sorted_insertionSort _ _).gt_of_ge ((List.perm_insertionSort _ _).nodup_iff.2 distinct)

/-! ## The selectors -/

/-- The row of an environment's lock. -/
def environmentDisplayLock (environment : Environment) (lockInfo : Lock) : DisplayLock where
  date := lockInfo.createdAt
  application := none
  environment := environment.name
  lockId := lockInfo.lockId
  message := lockInfo.message
  authorName := lockInfo.createdBy.map Actor.name
  authorEmail := lockInfo.createdBy.map Actor.email

/-- The row of an application's lock. -/
def applicationDisplayLock (environment : Environment) (application : Application) (lockInfo : Lock) :
    DisplayLock where
  date := lockInfo.createdAt
  application := some application.name
  environment := environment.name
  lockId := lockInfo.lockId
  message := lockInfo.message
  authorName := lockInfo.createdBy.map Actor.name
  authorEmail := lockInfo.createdBy.map Actor.email

/-- The selector of `useEnvironmentLocks`. -/
def useEnvironmentLocks (engine : ArraySort) (overview : Overview) : List DisplayLock :=
  let locks := ((overview.environments.map fun environment =>
      environment.locks.map (environmentDisplayLock environment)).filter
        (fun displayLock => displayLock.length != 0)).flatten
  sortLocks engine locks (toJSString "descending")

/-- The selector of `useApplicationLocks`. `displayLock[0]` is taken of lists the filter
before leaves non-empty. -/
def useApplicationLocks (engine : ArraySort) (overview : Overview) : List DisplayLock :=
  let locks := (((overview.environments.map fun environment =>
      (environment.applications.map fun application =>
        application.locks.map (applicationDisplayLock environment application)).filter
          (fun displayLock => displayLock.length != 0)).filter
      (fun displayLock => displayLock.length != 0)).map (fun displayLock => displayLock.headD [])).flatten
  sortLocks engine locks (toJSString "descending")

/-- A row for every lock of every environment. -/
def environmentLocks (overview : Overview) : List DisplayLock :=
  overview.environments.flatMap fun environment => environment.locks.map (environmentDisplayLock environment)

/-- A row for every lock of every application of every environment. -/
def applicationLocks (overview : Overview) : List DisplayLock :=
  overview.environments.flatMap fun environment => environment.applications.flatMap fun application =>
    application.locks.map (applicationDisplayLock environment application)

/-- The rows of the first application of an environment that has a lock. -/
def firstLockedApplication (environment : Environment) : List DisplayLock :=
  match environment.applications.find? (fun application => application.locks.length != 0) with
  | some application => application.locks.map (applicationDisplayLock environment application)
  | none => []

/-- Leaving out the empty lists does not change the concatenation of their images under a
map that sends the empty list to itself. -/
theorem flatten_map_filter_length {α β : Type} (f : List β → List α) (empty : f [] = []) (L : List (List β)) :
    ((L.filter fun l => l.length != 0).map f).flatten = (L.map f).flatten := by
  induction L with
  | nil => rfl
  | cons l L ih => cases l <;> simp [empty, ih]

/-- The first non-empty list of rows, one list per application. -/
theorem headD_filter_map (environment : Environment) :
    ((environment.applications.map fun application =>
      application.locks.map (applicationDisplayLock environment application)).filter
        (fun displayLock => displayLock.length != 0)).headD [] = firstLockedApplication environment := by
  unfold firstLockedApplication
  induction environment.applications with
  | nil => rfl
  | cons application rest ih =>
    cases locks : application.locks with
    | nil => simpa [locks] using ih
    | cons l ls => simp [locks]

/-- The environment locks are one row for each lock of each environment. -/
theorem useEnvironmentLocks_perm (engine : ArraySort) (overview : Overview) :
    (useEnvironmentLocks engine overview).Perm (environmentLocks overview) := by
  refine (sortLocks_perm _ _ _).trans (List.Perm.of_eq ?_)
  simpa [environmentLocks, List.flatMap_def] using flatten_map_filter_length id rfl _

/-- The application locks are the rows of the first application with a lock in each
environment, and none of the other applications. -/
theorem useApplicationLocks_perm (engine : ArraySort) (overview : Overview) :
    (useApplicationLocks engine overview).Perm (overview.environments.flatMap firstLockedApplication) := by
  refine (sortLocks_perm _ _ _).trans (List.Perm.of_eq ?_)
  rw [flatten_map_filter_length _ rfl, List.map_map, List.flatMap_def]
  simp only [Function.comp_def, headD_filter_map]

/-! ## Rows the code lists differently -/

/-- A lock of the sample user, created at `time`. -/
def sampleLock (lockId : String) (time : Option Int) (email : String) : Lock :=
  ⟨toJSString lockId, toJSString "maintenance", some ⟨time⟩, some ⟨toJSString "author", toJSString email⟩⟩

/-- One environment whose two applications each hold one lock. -/
def twoLockedApplications : Overview :=
  ⟨[⟨toJSString "production", [],
    [⟨toJSString "backend", [sampleLock "backend-freeze" (some 1000) "author@example.com"]⟩,
      ⟨toJSString "frontend", [sampleLock "frontend-freeze" (some 1000) "author@example.com"]⟩]⟩]⟩

/-- An overview with two applications locked in one environment: there are two
application locks, and for every engine the list holds the first application's only. -/
theorem second_application_lock_lost (engine : ArraySort) :
    (applicationLocks twoLockedApplications).map DisplayLock.lockId =
      [toJSString "backend-freeze", toJSString "frontend-freeze"] ∧
    (useApplicationLocks engine twoLockedApplications).map DisplayLock.lockId = [toJSString "backend-freeze"] := by
  obtain ⟨row, first, named⟩ : ∃ row, twoLockedApplications.environments.flatMap firstLockedApplication = [row] ∧
      row.lockId = toJSString "backend-freeze" := ⟨_, rfl, rfl⟩
  have kept := useApplicationLocks_perm engine twoLockedApplications
  rw [first, List.perm_singleton] at kept
  exact ⟨by decide, by rw [kept, List.map_singleton, named]⟩

/-- An environment's lock, in an environment of the given name. -/
def environmentRow (environment : String) (lockInfo : Lock) : DisplayLock :=
  environmentDisplayLock ⟨toJSString environment, [lockInfo], []⟩ lockInfo

/-- Two rows with the same date and the same author, the later environment first: every
engine keeps them in that order, since the comparator stops at the dates when the
e-mail addresses are equal. Three rows, one without a date, on which the comparator is not
consistent: the dated ones compare by date, and the undated one by environment with each. -/
theorem equal_emails_keep_input_order (engine : ArraySort) :
    let production := environmentRow "production" (sampleLock "freeze" (some 1000) "author@example.com")
    let development := environmentRow "development" (sampleLock "freeze" (some 1000) "author@example.com")
    stringLess development.environment production.environment = true ∧
    sortLocks engine [production, development] (toJSString "descending") = [production, development] ∧
    ¬ Consistent (lockComparator (-1))
      [environmentRow "staging" (sampleLock "freeze" (some 2000) "a@example.com"),
        environmentRow "production" (sampleLock "freeze" none "b@example.com"),
        environmentRow "development" (sampleLock "freeze" (some 1000) "c@example.com")] := by
  refine ⟨by decide, ?_, by decide⟩
  rw [sortLocks_descending engine (by decide)]
  decide

end Kuberpult.Frontend
