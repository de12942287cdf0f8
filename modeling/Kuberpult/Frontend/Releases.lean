import Kuberpult.Frontend.Js
import Mathlib.Data.List.AList
import Mathlib.Order.WithBot
import Mathlib.Algebra.Order.Ring.Int

/-! The release selectors of the frontend's store (store.tsx): `useDeployedReleases`, the
versions of an application deployed to at least one environment, and
`useCurrentlyDeployedAt`, the environments a version is deployed to. They read another
part of the overview than the lock lists do: each environment's applications, keyed by
name, with the deployed version and whether it is an undeploy version, which both
selectors write as `-1`. Both read `env.applications[application]`, which for a name the
environment does not have falls through to `Object.prototype`: `constructor`,
`toString` and the other names of `objectPrototypeProperties` read a truthy value with no
version.

1. **Deployed releases** (`useDeployedReleases_spec`): for every engine, the list holds
   each value shown once: a version, or `undefined` for an environment that inherits the
   name. Without `-1` it is newest first, `undefined` last. With `-1` the comparator is not
   consistent, since it calls `-1` less than itself, so ECMAScript leaves the order to the
   engine.
2. **The two selectors agree on versions** (`deployedReleases_deployedAt`): a version is
   listed exactly when some environment shows it, and then `useCurrentlyDeployedAt` lists
   that environment. `undefined` is listed exactly when the name is a property of
   `Object.prototype` that some environment does not have, and `useCurrentlyDeployedAt`
   lists such an environment under no version. The converse of the first part fails: an
   environment whose undeploy version has number `n` is listed under `n` too, though it
   shows `-1`. -/
namespace Kuberpult.Frontend

/-- An application of an environment, with the fields the release selectors read. Release
numbers are the backend's unsigned versions. -/
structure DeployedApplication where
  version : Nat
  undeployVersion : Bool
  deriving DecidableEq, Repr

/-- An environment of the overview: its name, and its applications keyed by name. -/
structure ReleaseEnvironment where
  name : JSString
  applications : AList fun _ : JSString => DeployedApplication

/-- The properties of `Object.prototype`, which every object of the overview inherits. Each
is a function, or for `__proto__` the prototype object itself: truthy, and with neither a
`version` nor an `undeployVersion`. -/
def objectPrototypeProperties : List String :=
  ["constructor", "hasOwnProperty", "isPrototypeOf", "propertyIsEnumerable", "toLocaleString", "toString",
    "valueOf", "__proto__", "__defineGetter__", "__defineSetter__", "__lookupGetter__", "__lookupSetter__"]

/-- What `env.applications[application]` reads: the environment's own application of that
name, a property inherited from `Object.prototype`, or `undefined`. -/
inductive ApplicationProperty where
  | own (a : DeployedApplication)
  | inherited
  | undefined
  deriving DecidableEq

/-- `env.applications[application]`. -/
def ReleaseEnvironment.application (env : ReleaseEnvironment) (application : JSString) : ApplicationProperty :=
  match env.applications.lookup application with
  | some a => .own a
  | none => if application ∈ objectPrototypeProperties.map toJSString then .inherited else .undefined

/-- The version the selectors write for a deployed application: `-1` for an undeploy
version. -/
def DeployedApplication.shown (a : DeployedApplication) : Int := if a.undeployVersion then -1 else a.version

/-- What `useDeployedReleases` makes of an environment: nothing when its filter drops the
property, and else the map's value. An inherited property has neither field, so the map
reads `undefined` (`none`). -/
def ApplicationProperty.shown : ApplicationProperty → Option (Option Int)
  | .own a => some (some a.shown)
  | .inherited => some none
  | .undefined => none

section SetValues

variable {α : Type} [DecidableEq α]

/-- `Set.prototype.add` on the values of a set, kept in insertion order. On numbers and
`undefined`, SameValueZero is equality. -/
def setAdd (seen : List α) (x : α) : List α := if x ∈ seen then seen else seen ++ [x]

/-- The values of `new Set(xs)`, spread into an array: each value once, where it first
occurs. -/
def setValues (xs : List α) : List α := xs.foldl setAdd []

theorem mem_setAdd {seen : List α} {x v : α} : v ∈ setAdd seen x ↔ v ∈ seen ∨ v = x := by
  unfold setAdd
  split_ifs with known
  · exact ⟨.inl, fun | .inl old => old | .inr rfl => known⟩
  · simp

theorem setAdd_nodup {seen : List α} (x : α) (nodup : seen.Nodup) : (setAdd seen x).Nodup := by
  unfold setAdd
  split_ifs with known
  · exact nodup
  · exact nodup.append (List.nodup_singleton x) (List.disjoint_singleton.2 known)

theorem foldl_setAdd (xs : List α) {seen : List α} (nodup : seen.Nodup) :
    (xs.foldl setAdd seen).Nodup ∧ ∀ v, v ∈ xs.foldl setAdd seen ↔ v ∈ seen ∨ v ∈ xs := by
  induction xs generalizing seen with
  | nil => exact ⟨nodup, fun v => by simp⟩
  | cons x xs ih =>
    obtain ⟨nodup', mem⟩ := ih (setAdd_nodup x nodup)
    exact ⟨nodup', fun v => by rw [List.foldl_cons, mem, mem_setAdd, List.mem_cons, or_assoc]⟩

/-- A `Set` holds each value once, and the values of the array it was built from. -/
theorem setValues_spec (xs : List α) : (setValues xs).Nodup ∧ ∀ v, v ∈ setValues xs ↔ v ∈ xs := by
  obtain ⟨nodup, mem⟩ := foldl_setAdd xs List.nodup_nil
  exact ⟨nodup, fun v => by simpa using mem v⟩

end SetValues

/-- The comparator of `useDeployedReleases`: `-1` first, then by descending version. -/
def deployedComparator (a b : Int) : Int := if a = -1 then -1 else if b = -1 then 1 else b - a

/-- The values the environments show, in the order `Object.values` lists the
environments. -/
def shownVersions (environments : List ReleaseEnvironment) (application : JSString) : List (Option Int) :=
  environments.filterMap fun env => (env.application application).shown

/-- `useDeployedReleases(application)` over the overview's environments. -/
def useDeployedReleases (engine : ArraySort) (environments : List ReleaseEnvironment) (application : JSString) :
    List (Option Int) :=
  engine.sort (compareArrayElements deployedComparator) (setValues (shownVersions environments application))

/-- Whether `useCurrentlyDeployedAt`'s filter keeps an environment. An inherited property
is truthy but has neither field: `undefined` fails the filter, and so does
`undefined === version`. -/
def deployedAt (application : JSString) (version : Int) (env : ReleaseEnvironment) : Bool :=
  match env.application application with
  | .own a => if version = -1 then a.undeployVersion else decide ((a.version : Int) = version)
  | .inherited => false
  | .undefined => false

/-- `useCurrentlyDeployedAt(application, version)` over the overview's environments. -/
def useCurrentlyDeployedAt (environments : List ReleaseEnvironment) (application : JSString) (version : Int) :
    List JSString :=
  (environments.filter (deployedAt application version)).map ReleaseEnvironment.name

/-- The order `useDeployedReleases` lists its values in when none is `-1`: versions newest
first, then `undefined`. -/
def listedBefore : Option Int → Option Int → Prop
  | some a, some b => a > b
  | some _, none => True
  | none, _ => False

/-! ## What an environment shows -/

@[simp] theorem ApplicationProperty.shown_eq_version {p : ApplicationProperty} {v : Int} :
    p.shown = some (some v) ↔ ∃ a, p = .own a ∧ a.shown = v := by
  cases p <;> simp [ApplicationProperty.shown]

@[simp] theorem ApplicationProperty.shown_eq_undefined {p : ApplicationProperty} :
    p.shown = some none ↔ p = .inherited := by
  cases p <;> simp [ApplicationProperty.shown]

theorem ReleaseEnvironment.application_eq_inherited {env : ReleaseEnvironment} {application : JSString} :
    env.application application = .inherited ↔
      application ∈ objectPrototypeProperties.map toJSString ∧ env.applications.lookup application = none := by
  unfold ReleaseEnvironment.application
  split <;> simp_all

theorem mem_shownVersions {environments : List ReleaseEnvironment} {application : JSString} {v : Option Int} :
    v ∈ shownVersions environments application ↔ ∃ env ∈ environments, (env.application application).shown = some v := by
  simp only [shownVersions, List.mem_filterMap]

theorem mem_useDeployedReleases {engine : ArraySort} {environments : List ReleaseEnvironment}
    {application : JSString} {v : Option Int} :
    v ∈ useDeployedReleases engine environments application ↔
      ∃ env ∈ environments, (env.application application).shown = some v := by
  rw [useDeployedReleases, (engine.perm _ _).mem_iff, (setValues_spec _).2 v, mem_shownVersions]

/-! ## The order -/

/-- On versions other than `-1`, the comparator is consistent and sorts by descending
version. -/
theorem deployedComparator_of_ne {xs : List Int} (noUndeploy : -1 ∉ xs) :
    Consistent deployedComparator xs ∧ ∀ a ∈ xs, ∀ b ∈ xs, deployedComparator a b ≤ 0 ↔ a ≥ b := by
  have plain : ∀ a ∈ xs, ∀ b ∈ xs, deployedComparator a b = b - a := fun a ha b hb => by
    have : a ≠ -1 := fun same => noUndeploy (same ▸ ha)
    have : b ≠ -1 := fun same => noUndeploy (same ▸ hb)
    simp [deployedComparator, *]
  refine ⟨fun a ha b hb c hc => ?_, fun a ha b hb => by rw [plain a ha b hb]; omega⟩
  rw [plain a ha a ha, plain a ha b hb, plain b hb a ha, plain b hb c hc, plain a ha c hc]
  omega

/-- The values of the list as a linear order: versions descending, `undefined` on top. -/
def versionOrder : Option Int → WithTop Intᵒᵈ := Option.map OrderDual.toDual

@[simp] theorem versionOrder_none : versionOrder none = ⊤ := rfl

@[simp] theorem versionOrder_some (x : Int) : versionOrder (some x) = ((OrderDual.toDual x : Intᵒᵈ) : WithTop Intᵒᵈ) :=
  rfl

theorem versionOrder_lt {a b : Option Int} (lt : versionOrder a < versionOrder b) : listedBefore a b := by
  rcases a with _ | a <;> rcases b with _ | b <;> simp_all [listedBefore, WithTop.not_top_lt]

/-- Without `-1`, CompareArrayElements with the comparator is consistent and orders the
values as `versionOrder` does. -/
theorem compareDeployed_of_ne {xs : List (Option Int)} (noUndeploy : some (-1) ∉ xs) :
    Consistent (compareArrayElements deployedComparator) xs ∧ ∀ a ∈ xs, ∀ b ∈ xs,
      compareArrayElements deployedComparator a b ≤ 0 ↔ versionOrder a ≤ versionOrder b := by
  have numbers : -1 ∉ xs.filterMap id := fun undeploy => by
    obtain ⟨_, mem, rfl⟩ := List.mem_filterMap.1 undeploy
    simp_all
  obtain ⟨consistent, order⟩ := deployedComparator_of_ne numbers
  refine ⟨consistent.compareArrayElements, fun a ha b hb => ?_⟩
  have defined {x : Int} (mem : some x ∈ xs) : x ∈ xs.filterMap id := List.mem_filterMap.2 ⟨_, mem, rfl⟩
  rcases a with _ | a <;> rcases b with _ | b
  case some.some => simpa [compareArrayElements] using order a (defined ha) b (defined hb)
  all_goals simp [compareArrayElements, WithTop.coe_lt_top]

/-- The comparator calls `-1` less than itself. -/
theorem deployedComparator_not_consistent {xs : List (Option Int)} (undeploy : some (-1) ∈ xs) :
    ¬Consistent (compareArrayElements deployedComparator) xs := fun consistent => by
  have reflexive := (consistent _ undeploy _ undeploy _ undeploy).1
  simp [compareArrayElements, deployedComparator] at reflexive

/-- **The deployed releases, once each.** For every engine, `useDeployedReleases` lists
the value shown by each environment that the filter keeps, each once: a version, or
`undefined` for one that inherits the name from `Object.prototype`. When no version is
`-1`, the list is newest first with `undefined` last. When one is, the comparator is not
consistent for the array, and ECMAScript leaves the order to the engine. -/
theorem useDeployedReleases_spec (engine : ArraySort) (environments : List ReleaseEnvironment)
    (application : JSString) :
    (useDeployedReleases engine environments application).Nodup ∧
    (∀ v, v ∈ useDeployedReleases engine environments application ↔
      ∃ env ∈ environments, (env.application application).shown = some v) ∧
    (some (-1) ∉ useDeployedReleases engine environments application →
      (useDeployedReleases engine environments application).Sorted listedBefore) ∧
    (some (-1) ∈ useDeployedReleases engine environments application →
      ¬Consistent (compareArrayElements deployedComparator) (setValues (shownVersions environments application))) := by
  set values := setValues (shownVersions environments application)
  have perm : (useDeployedReleases engine environments application).Perm values := engine.perm _ _
  have nodup := (setValues_spec (shownVersions environments application)).1
  refine ⟨perm.nodup_iff.2 nodup, fun v => mem_useDeployedReleases, fun noUndeploy => ?_,
    fun undeploy => deployedComparator_not_consistent (perm.subset undeploy)⟩
  obtain ⟨consistent, order⟩ := compareDeployed_of_ne fun undeploy => noUndeploy (perm.symm.subset undeploy)
  have sorted : (useDeployedReleases engine environments application).map versionOrder =
      (values.map versionOrder).insertionSort (· ≤ ·) := by
    rw [useDeployedReleases, engine.consistent _ _ consistent]
    exact List.map_insertionSort _ _ _ _ order
  have injective : Function.Injective versionOrder := Option.map_injective OrderDual.toDual.injective
  have strict := (List.sorted_insertionSort (· ≤ ·) (values.map versionOrder)).lt_of_le
    ((List.perm_insertionSort _ _).nodup_iff.2 ((List.nodup_map_iff injective).2 nodup))
  rw [← sorted, List.Sorted, List.pairwise_map] at strict
  exact strict.imp versionOrder_lt

/-! ## The two selectors -/

/-- An environment that has the application is listed under the version it shows. -/
theorem mem_useCurrentlyDeployedAt_shown {environments : List ReleaseEnvironment} {application : JSString}
    {env : ReleaseEnvironment} {a : DeployedApplication} (listed : env ∈ environments)
    (found : env.application application = .own a) :
    env.name ∈ useCurrentlyDeployedAt environments application a.shown := by
  refine List.mem_map_of_mem _ (List.mem_filter.2 ⟨listed, ?_⟩)
  have released : ((a.version : Int) = -1) = False := eq_false (by omega)
  cases undeploy : a.undeployVersion <;> simp [deployedAt, found, DeployedApplication.shown, undeploy, released]

theorem deployedAt_inherited {env : ReleaseEnvironment} {application : JSString}
    (inherited : env.application application = .inherited) (v : Int) : deployedAt application v env = false := by
  simp [deployedAt, inherited]

/-- **The two selectors agree on versions.** A version is among the deployed releases
exactly when some environment that has the application shows it, and
`useCurrentlyDeployedAt` lists that environment under it, whichever engine sorts.
`undefined` is among them exactly when the name is a property of `Object.prototype` that
some environment does not have, and `useCurrentlyDeployedAt` lists such an environment
under no version. -/
theorem deployedReleases_deployedAt (engine : ArraySort) (environments : List ReleaseEnvironment)
    (application : JSString) :
    (∀ v : Int, some v ∈ useDeployedReleases engine environments application ↔
      ∃ env ∈ environments, ∃ a, env.application application = .own a ∧ a.shown = v ∧
        env.name ∈ useCurrentlyDeployedAt environments application v) ∧
    (none ∈ useDeployedReleases engine environments application ↔
      application ∈ objectPrototypeProperties.map toJSString ∧
        ∃ env ∈ environments, env.applications.lookup application = none ∧
          ∀ v, deployedAt application v env = false) := by
  refine ⟨fun v => ?_, ?_⟩
  · simp only [mem_useDeployedReleases, ApplicationProperty.shown_eq_version]
    constructor
    · rintro ⟨env, listed, a, found, rfl⟩
      exact ⟨env, listed, a, found, rfl, mem_useCurrentlyDeployedAt_shown listed found⟩
    · rintro ⟨env, listed, a, found, shown, -⟩
      exact ⟨env, listed, a, found, shown⟩
  · simp only [mem_useDeployedReleases, ApplicationProperty.shown_eq_undefined]
    constructor
    · rintro ⟨env, listed, inherited⟩
      obtain ⟨name, own⟩ := ReleaseEnvironment.application_eq_inherited.1 inherited
      exact ⟨name, env, listed, own, deployedAt_inherited inherited⟩
    · rintro ⟨name, env, listed, own, -⟩
      exact ⟨env, listed, ReleaseEnvironment.application_eq_inherited.2 ⟨name, own⟩⟩

/-- `useDeployedReleases('constructor')` on an environment with no applications. -/
example : useDeployedReleases insertionEngine [⟨toJSString "production", ∅⟩] (toJSString "constructor") = [none] := by
  decide

end Kuberpult.Frontend
