import Kuberpult.State.Basic

/-! The queued version of an application in an environment: a link `queued_version` next
to `version`, pointing to a release that waits behind a lock. `State.ProcessQueue` removes
it when it names the release already deployed, and does nothing else: it never deploys, and
the only path of the tree it can change is the queue link
(`ProcessQueue_removes_deployed_queue`). `DeleteQueuedVersionIfExists` either fails or
leaves no queued version (`DeleteQueuedVersionIfExists_empties`).

The tree builder's `Remove` changes the state's filesystem in place; here the functions
that remove return the state after the removal. -/
namespace Kuberpult

/-- Modelled from the spec: the package's `queueFileName`. -/
def queueFileName : String := "queued_version"

/-- The link of an application's queued version. -/
def queuedVersionPath (environment application : String) : Path :=
  join ["environments", environment, "applications", application, queueFileName]

/-- Go's `State.GetQueuedVersion(environment, application)`. -/
def State.GetQueuedVersion (s : State) (environment application : String) : Except Error (Option UInt64) :=
  s.readSymlink environment application queueFileName

/-- Go's `State.DeleteQueuedVersion(environment, application)`. -/
def State.DeleteQueuedVersion (s : State) (environment application : String) : Option Error × State :=
  match s.Filesystem.Remove (queuedVersionPath environment application) with
  | .ok fs => (none, { s with Filesystem := fs })
  | .error err => (some err, s)

/-- Go's `State.DeleteQueuedVersionIfExists(environment, application)`. -/
def State.DeleteQueuedVersionIfExists (s : State) (environment application : String) : Option Error × State :=
  match s.GetQueuedVersion environment application with
  | .error err => (some err, s)
  | .ok none => (none, s)
  | .ok (some _) => s.DeleteQueuedVersion environment application

/-- The message `ProcessQueue` returns when it removed an outdated queued version. -/
def queueDeletedMessage (queuedVersion : UInt64) (environment application : String) : String :=
  "deleted queued version " ++ toString queuedVersion ++ " because it was already deployed. app=" ++
    application.quote ++ " env=" ++ environment.quote

/-- Go's `State.ProcessQueue(ctx, fs, environment, application)`: the message and the error
it returns, and the state after it. Its `fs` argument is not used. The comparison
`currentlyDeployedVersion != nil && *queuedVersion == *currentlyDeployedVersion` is
`currentlyDeployedVersion = some queuedVersion`. -/
def State.ProcessQueue (s : State) (environment application : String) : (String × Option Error) × State :=
  match s.GetQueuedVersion environment application with
  | .error err => (("", some err), s)
  | .ok none => (("", none), s)
  | .ok (some queuedVersion) =>
    match s.GetEnvironmentApplicationVersion environment application with
    | .error err => (("", some err), s)
    | .ok currentlyDeployedVersion =>
      if currentlyDeployedVersion = some queuedVersion then
        let (err, s) := s.DeleteQueuedVersion environment application
        ((queueDeletedMessage queuedVersion environment application, err), s)
      else (("", none), s)

/-! ## The queue link -/

/-- The link of the deployed version is not the queue link. -/
theorem version_ne_queuedVersionPath (environment application : String) :
    join ["environments", environment, "applications", application, "version"] ≠
      queuedVersionPath environment application := by
  have version := join_append_name ["environments", environment, "applications", application]
    (show IsName "version" by decide)
  have queue := join_append_name ["environments", environment, "applications", application]
    (show IsName queueFileName by decide)
  simp only [List.cons_append, List.nil_append] at version queue
  rw [queuedVersionPath, version, queue]
  intro same
  have := (List.append_inj' same rfl).2
  simp [queueFileName] at this

/-- A queued version was read through a link stored at the queue path. -/
theorem State.GetQueuedVersion_link {s : State} {environment application : String} {v : UInt64}
    (queued : s.GetQueuedVersion environment application = .ok (some v)) :
    ∃ target, s.Filesystem.get (queuedVersionPath environment application) = some (.symlink target) := by
  unfold State.GetQueuedVersion State.readSymlink at queued
  cases linked : s.Filesystem.Readlink (queuedVersionPath environment application) with
  | error err =>
    simp only [queuedVersionPath] at linked
    simp only [linked] at queued
    split at queued <;> cases queued
  | ok target =>
    unfold TreeFS.Readlink at linked
    split at linked
    · rename_i stored
      cases linked
      exact ⟨_, stored⟩
    all_goals cases linked

/-- Removing the queue link after a queued version was read succeeds, and afterwards the
queue reads empty. -/
theorem State.DeleteQueuedVersion_of_queued {s : State} {environment application : String} {v : UInt64}
    (queued : s.GetQueuedVersion environment application = .ok (some v)) :
    ∃ fs, s.Filesystem.Remove (queuedVersionPath environment application) = .ok fs ∧
      s.DeleteQueuedVersion environment application = (none, { s with Filesystem := fs }) := by
  obtain ⟨target, link⟩ := State.GetQueuedVersion_link queued
  obtain ⟨fs, removed⟩ := TreeFS.Remove_of_not_dir link nofun
  exact ⟨fs, removed, by simp [State.DeleteQueuedVersion, removed]⟩

/-- A state whose tree has no queue link reads no queued version. -/
theorem State.GetQueuedVersion_of_missing {s : State} {environment application : String}
    (missing : s.Filesystem.get (queuedVersionPath environment application) = none) :
    s.GetQueuedVersion environment application = .ok none := by
  unfold State.GetQueuedVersion State.readSymlink
  have absent : s.Filesystem.Readlink (queuedVersionPath environment application) =
      .error (.notExist (queuedVersionPath environment application).text) := by
    simp [TreeFS.Readlink, missing]
  simp only [queuedVersionPath] at absent
  simp [absent, Error.Is_notExist]

/-! ## What `ProcessQueue` changes -/

/-- **`ProcessQueue` never deploys.** It changes nothing but the state's tree, and of the
tree at most the queue link: it removes the link, and reports no error, exactly when the
queued version and the deployed version read as the same release; then the queue reads
empty. In every other case it returns an empty message and leaves the state as it was. -/
theorem State.ProcessQueue_removes_deployed_queue (s : State) (environment application : String) :
    (s.ProcessQueue environment application).2 =
        { s with Filesystem := (s.ProcessQueue environment application).2.Filesystem } ∧
    (∀ p ≠ queuedVersionPath environment application,
      (s.ProcessQueue environment application).2.Filesystem.get p = s.Filesystem.get p) ∧
    (s.ProcessQueue environment application).2.Filesystem.get
        (join ["environments", environment, "applications", application, "version"]) =
      s.Filesystem.get (join ["environments", environment, "applications", application, "version"]) ∧
    (∀ v, s.GetQueuedVersion environment application = .ok (some v) →
      s.GetEnvironmentApplicationVersion environment application = .ok (some v) →
      (s.ProcessQueue environment application).1 = (queueDeletedMessage v environment application, none) ∧
      (s.ProcessQueue environment application).2.GetQueuedVersion environment application = .ok none) ∧
    ((¬∃ v, s.GetQueuedVersion environment application = .ok (some v) ∧
        s.GetEnvironmentApplicationVersion environment application = .ok (some v)) →
      (s.ProcessQueue environment application).1.1 = "" ∧ (s.ProcessQueue environment application).2 = s) := by
  cases queued : s.GetQueuedVersion environment application with
  | error err => simp [State.ProcessQueue, queued]
  | ok queuedVersion =>
    cases queuedVersion with
    | none => simp [State.ProcessQueue, queued]
    | some v =>
      cases current : s.GetEnvironmentApplicationVersion environment application with
      | error err => simp [State.ProcessQueue, queued, current]
      | ok deployed =>
        by_cases outdated : deployed = some v
        · subst outdated
          obtain ⟨fs, removed, deleted⟩ := State.DeleteQueuedVersion_of_queued queued
          have processed : s.ProcessQueue environment application =
              ((queueDeletedMessage v environment application, none), { s with Filesystem := fs }) := by
            simp [State.ProcessQueue, queued, current, deleted]
          have frame : ∀ p ≠ queuedVersionPath environment application, fs.get p = s.Filesystem.get p :=
            fun p other => by rw [TreeFS.Remove_get removed, if_neg other]
          rw [processed]
          refine ⟨rfl, frame, frame _ (version_ne_queuedVersionPath environment application), fun w same _ => ?_,
            fun notSame => absurd ⟨v, rfl, rfl⟩ notSame⟩
          cases same
          exact ⟨rfl, State.GetQueuedVersion_of_missing (by rw [TreeFS.Remove_get removed, if_pos rfl])⟩
        · simp [State.ProcessQueue, queued, current, outdated]

/-- **`DeleteQueuedVersionIfExists` leaves no queued version.** Unless reading the queued
version fails, when it returns that error and changes nothing, it leaves a state whose
queue reads empty, having removed at most the queue link. -/
theorem State.DeleteQueuedVersionIfExists_empties (s : State) (environment application : String) :
    (∀ p ≠ queuedVersionPath environment application,
      (s.DeleteQueuedVersionIfExists environment application).2.Filesystem.get p = s.Filesystem.get p) ∧
    ((s.DeleteQueuedVersionIfExists environment application).1 = none ∧
        (s.DeleteQueuedVersionIfExists environment application).2.GetQueuedVersion environment application =
          .ok none ∨
      ∃ err, s.GetQueuedVersion environment application = .error err ∧
        s.DeleteQueuedVersionIfExists environment application = (some err, s)) := by
  cases queued : s.GetQueuedVersion environment application with
  | error err => simp [State.DeleteQueuedVersionIfExists, queued]
  | ok queuedVersion =>
    cases queuedVersion with
    | none => simp [State.DeleteQueuedVersionIfExists, queued]
    | some v =>
      obtain ⟨fs, removed, deleted⟩ := State.DeleteQueuedVersion_of_queued queued
      simp only [State.DeleteQueuedVersionIfExists, queued, deleted]
      exact ⟨fun p other => by rw [TreeFS.Remove_get removed, if_neg other],
        .inl ⟨trivial, State.GetQueuedVersion_of_missing (by rw [TreeFS.Remove_get removed, if_pos rfl])⟩⟩

end Kuberpult
