import Mathlib.Data.List.AList

/-! The health server every service runs (pkg/setup/health.go), and the copy with report
lifetimes that follows auth.go in the sources. A component gets a reporter from the
server, which reports it as starting, and then reports its health; the server answers
whether one component is ready (`IsReady`) and, over HTTP, whether all are (`ServeHTTP`).

Both copies store one report per component and read nothing of a report but its health,
so one server with the report's type as a parameter serves both (`HealthServer`). Over
every run of reports the server holds each component's last report (`run_lookup`). From
that, **readiness is the last report** (`health_ready_iff_last_report`): `IsReady` is
true exactly when the component's last report was ready, and the service answers 200
exactly when every component that reported last reported ready. A report never expires
and is never withdrawn: the lifetime a report of the second copy carries is never read. -/
namespace Kuberpult.Setup

/-- Go's `Health`, by its three constants. -/
inductive Health where
  | HealthStarting
  | HealthReady
  | HealthFailed
  deriving DecidableEq, Repr

/-- The reports of a `HealthServer` (`parts`), by component name; a nil map reads as the
empty one. `ρ` is the report's type. -/
structure HealthServer (ρ : Type) where
  parts : AList fun _ : String => ρ

/-! ## The server, for either report -/

section Server

variable {ρ : Type} (health : ρ → Health)

/-- A server no component has reported to. -/
def HealthServer.empty : HealthServer ρ := ⟨∅⟩

/-- What `HealthReporter.ReportHealth` does with the report it built: nothing for a nil
reporter (`r == nil`), and otherwise `parts[r.name] = report`, under the server's lock. -/
def HealthServer.store (h : HealthServer ρ) (r : Option String) (report : ρ) : HealthServer ρ :=
  match r with
  | none => h
  | some name => ⟨h.parts.insert name report⟩

/-- `HealthServer.IsReady(name)`: a component with no report reads the zero report, whose
health is `HealthStarting`. -/
def HealthServer.IsReady (h : HealthServer ρ) (name : String) : Bool :=
  match h.parts.lookup name with
  | some report => decide (health report = .HealthReady)
  | none => false

/-- The loop of `ServeHTTP` over the copy `reports()` returns: a report that is not ready
clears `success`. Go ranges over the map in any order; the result does not depend on it. -/
def HealthServer.success (h : HealthServer ρ) : Bool :=
  h.parts.entries.foldl (fun success part => if health part.2 ≠ .HealthReady then false else success) true

/-- The status `HealthServer.ServeHTTP` writes. -/
def HealthServer.ServeHTTP (h : HealthServer ρ) : Nat := if h.success health then 200 else 500

/-- A run: the reports stored, in order, each with its reporter. -/
def HealthServer.run (reports : List (Option String × ρ)) : HealthServer ρ :=
  reports.foldl (fun h report => h.store report.1 report.2) .empty

/-- The last report a run stores for a component. -/
def lastReport (name : String) : List (Option String × ρ) → Option ρ
  | [] => none
  | report :: reports => (lastReport name reports).or (if report.1 = some name then some report.2 else none)

theorem HealthServer.store_lookup (h : HealthServer ρ) (report : Option String × ρ) (name : String) :
    (h.store report.1 report.2).parts.lookup name =
      (if report.1 = some name then some report.2 else none).or (h.parts.lookup name) := by
  obtain ⟨_ | reporter, report⟩ := report
  · simp [HealthServer.store]
  · by_cases same : reporter = name
    · subst same
      simp [HealthServer.store]
    · simp [HealthServer.store, AList.lookup_insert_ne (Ne.symm same), same]

theorem foldl_store_lookup (reports : List (Option String × ρ)) (h : HealthServer ρ) (name : String) :
    (reports.foldl (fun h report => h.store report.1 report.2) h).parts.lookup name =
      (lastReport name reports).or (h.parts.lookup name) := by
  induction reports generalizing h with
  | nil => simp [lastReport]
  | cons report reports ih => rw [List.foldl_cons, ih, HealthServer.store_lookup, lastReport, Option.or_assoc]

/-- A run's server holds each component's last report. -/
theorem HealthServer.run_lookup (reports : List (Option String × ρ)) (name : String) :
    (HealthServer.run reports).parts.lookup name = lastReport name reports := by
  simpa [HealthServer.run, HealthServer.empty] using foldl_store_lookup reports .empty name

theorem foldl_success (entries : List (Sigma fun _ : String => ρ)) (success : Bool) :
    entries.foldl (fun success part => if health part.2 ≠ .HealthReady then false else success) success =
      (success && entries.all fun part => health part.2 = .HealthReady) := by
  induction entries generalizing success with
  | nil => simp
  | cons part entries ih =>
    rw [List.foldl_cons, ih]
    by_cases ready : health part.2 = .HealthReady <;> simp [ready]

/-- The service is ready exactly when every stored report is. -/
theorem HealthServer.success_iff (h : HealthServer ρ) :
    h.success health = true ↔ ∀ name report, h.parts.lookup name = some report → health report = .HealthReady := by
  rw [HealthServer.success, foldl_success]
  simp only [Bool.true_and, List.all_eq_true, decide_eq_true_eq]
  exact ⟨fun ready name report stored => ready ⟨name, report⟩ (AList.mem_lookup_iff.1 stored),
    fun ready part stored => ready part.1 part.2 (AList.mem_lookup_iff.2 stored)⟩

/-- Over a run, readiness of a component and of the service, from the last reports. -/
theorem HealthServer.run_ready (reports : List (Option String × ρ)) (name : String) :
    ((HealthServer.run reports).IsReady health name = true ↔
      (lastReport name reports).map health = some .HealthReady) ∧
    ((HealthServer.run reports).ServeHTTP health = 200 ↔
      ∀ name report, lastReport name reports = some report → health report = .HealthReady) := by
  refine ⟨?_, ?_⟩
  · unfold HealthServer.IsReady
    rw [HealthServer.run_lookup]
    cases lastReport name reports <;> simp
  · have ready := HealthServer.success_iff health (HealthServer.run reports)
    simp only [HealthServer.run_lookup] at ready
    unfold HealthServer.ServeHTTP
    rw [← ready]
    cases (HealthServer.run reports).success health <;> simp

theorem lastReport_map (reports : List (Option String × ρ)) (name : String) :
    (lastReport name reports).map health = lastReport name (reports.map fun report => (report.1, health report.2)) := by
  induction reports with
  | nil => rfl
  | cons report reports ih =>
    simp only [lastReport, List.map_cons, ← ih]
    cases lastReport name reports <;> split <;> simp

/-- Over a run, readiness of a component and of the service, from the healths of the last
reports alone. -/
theorem HealthServer.run_ready_of_healths (reports : List (Option String × ρ)) (name : String) :
    let healths := reports.map fun report => (report.1, health report.2)
    ((HealthServer.run reports).IsReady health name = true ↔ lastReport name healths = some .HealthReady) ∧
    ((HealthServer.run reports).ServeHTTP health = 200 ↔
      ∀ component state, lastReport component healths = some state → state = .HealthReady) := by
  obtain ⟨component, service⟩ := HealthServer.run_ready health reports name
  refine ⟨by rw [component, lastReport_map], service.trans ⟨fun ready component state last => ?_, fun ready component report last => ?_⟩⟩
  · rw [← lastReport_map] at last
    obtain ⟨report, stored, rfl⟩ := Option.map_eq_some'.1 last
    exact ready component report stored
  · exact ready component _ (by rw [← lastReport_map, last]; rfl)

/-- A call of either copy stores one report, by its reporter, with the health it names. -/
def StoresOutcome {κ : Type} (apply : HealthServer ρ → κ → HealthServer ρ) (outcome : κ → Option String × Health) :
    Prop :=
  ∀ h call, ∃ report, apply h call = h.store (outcome call).1 report ∧ health report = (outcome call).2

theorem foldl_stores {κ : Type} {apply : HealthServer ρ → κ → HealthServer ρ} {outcome : κ → Option String × Health}
    (stores : StoresOutcome health apply outcome) (calls : List κ) (h : HealthServer ρ) :
    ∃ reports : List (Option String × ρ), calls.foldl apply h = reports.foldl (fun h report => h.store report.1 report.2) h ∧
      reports.map (fun report => (report.1, health report.2)) = calls.map outcome := by
  induction calls generalizing h with
  | nil => exact ⟨[], rfl, rfl⟩
  | cons call calls ih =>
    obtain ⟨report, applied, named⟩ := stores h call
    obtain ⟨reports, run, same⟩ := ih (apply h call)
    refine ⟨((outcome call).1, report) :: reports, ?_, by simp [same, named]⟩
    rw [List.foldl_cons, run, applied, List.foldl_cons]

/-- Over every run of calls that store their outcome, readiness of a component and of the
service, from the reporters and healths of the calls alone. -/
theorem foldl_ready {κ : Type} {apply : HealthServer ρ → κ → HealthServer ρ} {outcome : κ → Option String × Health}
    (stores : StoresOutcome health apply outcome) (calls : List κ) (name : String) :
    ((calls.foldl apply .empty).IsReady health name = true ↔ lastReport name (calls.map outcome) = some .HealthReady) ∧
    ((calls.foldl apply .empty).ServeHTTP health = 200 ↔
      ∀ component state, lastReport component (calls.map outcome) = some state → state = .HealthReady) := by
  obtain ⟨reports, run, same⟩ := foldl_stores health stores calls .empty
  rw [run, ← same]
  exact HealthServer.run_ready_of_healths health reports name

end Server

/-! ## pkg/setup/health.go -/

section HealthGo

variable {τ : Type}

/-- A report of health.go, `report{Health, Time, Message}`; `τ` is Go's `time.Time`. -/
structure report (τ : Type) where
  Health : Health
  Time : τ
  Message : String

/-- `HealthReporter.ReportHealth(health, message)`, stamped with `now`, what the server's
clock reads (`HealthServer.now`). -/
def HealthReporter.ReportHealth (h : HealthServer (report τ)) (r : Option String) (health : Health) (message : String)
    (now : τ) : HealthServer (report τ) :=
  h.store r ⟨health, now, message⟩

/-- `HealthReporter.ReportReady(message)`. -/
def HealthReporter.ReportReady (h : HealthServer (report τ)) (r : Option String) (message : String) (now : τ) :
    HealthServer (report τ) :=
  HealthReporter.ReportHealth h r .HealthReady message now

/-- `HealthServer.Reporter(name)`: the new reporter, named `name`, reports it as starting. -/
def HealthServer.Reporter (h : HealthServer (report τ)) (name : String) (now : τ) : HealthServer (report τ) :=
  HealthReporter.ReportHealth h (some name) .HealthStarting "starting" now

/-- A call that changes the server, with what the clock read during it. -/
inductive Call (τ : Type) where
  | Reporter (name : String) (now : τ)
  | ReportHealth (r : Option String) (health : Health) (message : String) (now : τ)
  | ReportReady (r : Option String) (message : String) (now : τ)

/-- The server after a call. -/
def Call.apply (h : HealthServer (report τ)) : Call τ → HealthServer (report τ)
  | .Reporter name now => h.Reporter name now
  | .ReportHealth r health message now => HealthReporter.ReportHealth h r health message now
  | .ReportReady r message now => HealthReporter.ReportReady h r message now

/-- The reporter of a call and the health it reports. -/
def Call.outcome : Call τ → Option String × Health
  | .Reporter name _ => (some name, .HealthStarting)
  | .ReportHealth r health _ _ => (r, health)
  | .ReportReady r _ _ => (r, .HealthReady)

/-- The server after a run of calls, from one no component reported to. -/
def runCalls (calls : List (Call τ)) : HealthServer (report τ) := calls.foldl Call.apply .empty

theorem Call.storesOutcome : StoresOutcome report.Health (@Call.apply τ) Call.outcome := fun _ call => by
  cases call <;> exact ⟨_, rfl, rfl⟩

end HealthGo

/-! ## The copy with report lifetimes -/

namespace Ttl

variable {τ : Type}

/-- A report of the copy, `report{Health, Time, Ttl, Message}`; `Ttl` is a
`time.Duration`, in nanoseconds. -/
structure report (τ : Type) where
  Health : Health
  Time : τ
  Ttl : Int
  Message : String

/-- `TtlForever`. -/
def TtlForever : Int := 0

/-- `HealthReporter.ReportHealth(health, message, ttl)`, stamped with `now`. -/
def HealthReporter.ReportHealth (h : HealthServer (report τ)) (r : Option String) (health : Health) (message : String)
    (ttl : Int) (now : τ) : HealthServer (report τ) :=
  h.store r ⟨health, now, ttl, message⟩

/-- `HealthReporter.ReportReady(message)`. -/
def HealthReporter.ReportReady (h : HealthServer (report τ)) (r : Option String) (message : String) (now : τ) :
    HealthServer (report τ) :=
  HealthReporter.ReportHealth h r .HealthReady message TtlForever now

/-- `HealthReporter.ReportReadyTtl(message, ttl)`. -/
def HealthReporter.ReportReadyTtl (h : HealthServer (report τ)) (r : Option String) (message : String) (ttl : Int)
    (now : τ) : HealthServer (report τ) :=
  HealthReporter.ReportHealth h r .HealthReady message ttl now

/-- `HealthServer.Reporter(name)`. -/
def HealthServer.Reporter (h : HealthServer (report τ)) (name : String) (now : τ) : HealthServer (report τ) :=
  HealthReporter.ReportHealth h (some name) .HealthStarting "starting" 0 now

/-- A call that changes the server, with what the clock read during it. -/
inductive Call (τ : Type) where
  | Reporter (name : String) (now : τ)
  | ReportHealth (r : Option String) (health : Health) (message : String) (ttl : Int) (now : τ)
  | ReportReady (r : Option String) (message : String) (now : τ)
  | ReportReadyTtl (r : Option String) (message : String) (ttl : Int) (now : τ)

/-- The server after a call. -/
def Call.apply (h : HealthServer (report τ)) : Call τ → HealthServer (report τ)
  | .Reporter name now => HealthServer.Reporter h name now
  | .ReportHealth r health message ttl now => HealthReporter.ReportHealth h r health message ttl now
  | .ReportReady r message now => HealthReporter.ReportReady h r message now
  | .ReportReadyTtl r message ttl now => HealthReporter.ReportReadyTtl h r message ttl now

/-- The reporter of a call and the health it reports. -/
def Call.outcome : Call τ → Option String × Health
  | .Reporter name _ => (some name, .HealthStarting)
  | .ReportHealth r health _ _ _ => (r, health)
  | .ReportReady r _ _ => (r, .HealthReady)
  | .ReportReadyTtl r _ _ _ => (r, .HealthReady)

/-- The server after a run of calls, from one no component reported to. -/
def runCalls (calls : List (Call τ)) : HealthServer (report τ) := calls.foldl Call.apply .empty

theorem Call.storesOutcome : StoresOutcome report.Health (@Call.apply τ) Call.outcome := fun _ call => by
  cases call <;> exact ⟨_, rfl, rfl⟩

end Ttl

/-- **Readiness is the last report.** In either copy of the health server, over every
run of `Reporter`, `ReportHealth` and the `ReportReady` calls, nil reporters included:
`IsReady(name)` is true exactly when the last report made for `name` was ready, and
`ServeHTTP` answers 200 exactly when every component's last report was ready. A new
reporter holds the service at 500 until it reports ready; no report expires, and what
decides readiness is the calls' reporters and healths, never their messages, times or
lifetimes. -/
theorem health_ready_iff_last_report {τ : Type} (name : String) :
    (∀ calls : List (Call τ),
      ((runCalls calls).IsReady report.Health name = true ↔
        lastReport name (calls.map Call.outcome) = some .HealthReady) ∧
      ((runCalls calls).ServeHTTP report.Health = 200 ↔
        ∀ component state, lastReport component (calls.map Call.outcome) = some state → state = .HealthReady)) ∧
    (∀ calls : List (Ttl.Call τ),
      ((Ttl.runCalls calls).IsReady Ttl.report.Health name = true ↔
        lastReport name (calls.map Ttl.Call.outcome) = some .HealthReady) ∧
      ((Ttl.runCalls calls).ServeHTTP Ttl.report.Health = 200 ↔
        ∀ component state, lastReport component (calls.map Ttl.Call.outcome) = some state → state = .HealthReady)) :=
  ⟨fun calls => foldl_ready _ Call.storesOutcome calls name, fun calls => foldl_ready _ Ttl.Call.storesOutcome calls name⟩

end Kuberpult.Setup
