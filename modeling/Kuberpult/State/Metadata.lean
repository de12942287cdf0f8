import Kuberpult.State.Basic

/-! The metadata readers of `repository.State`: locks, releases, deployments and the
optional files of an application. They share one way of reading a file that may be
missing (`readOptional`): a missing file gives the field's zero value, any other failure is
returned. Times go through Go's `time` package, which is not part of this repository, so the
readers take it as a parameter (`GoTime`) and every statement holds for each parser.

1. **Locks** (`readLocks_ok`): a locks directory is read as a map exactly when it can be
   listed and each entry is a directory whose lock reads; then the map has one lock per
   entry, read from that entry's files. A loose file is never read as a lock.
2. **Releases** (`GetApplicationRelease_ok`): a release that is read had its directory, and
   each of its fields is the content of its file, or the field's zero value when the file is
   missing; its undeploy flag is the presence of `undeploy`. -/
namespace Kuberpult

/-- What the readers call of Go's `time` package: the zero value `time.Time{}` and
`time.Parse(layout, value)`. -/
structure GoTime (τ : Type) where
  zero : τ
  Parse : String → String → Except Error τ

theorem Except.bind_eq_ok {ε α β : Type} {x : Except ε α} {f : α → Except ε β} {b : β} :
    x >>= f = .ok b ↔ ∃ a, x = .ok a ∧ f a = .ok b := by
  cases x <;> simp [bind, Except.bind]

/-- Go's `time.RFC3339` layout. -/
def RFC3339 : String := "2006-01-02T15:04:05Z07:00"

/-- The layout `GetDeploymentMetaData` parses `deployed_at_utc` with. -/
def deployedAtLayout : String := "2006-01-02 15:04:05 -0700 MST"

/-- Go's `unicode.IsSpace`. -/
def isGoSpace (c : Char) : Bool :=
  c = '\t' || c = '\n' || c = '\x0B' || c = '\x0C' || c = '\r' || c = ' ' || c = '\u0085' ||
    c = '\u00A0' || c = '\u1680' || ('\u2000' ≤ c && c ≤ '\u200A') || c = '\u2028' || c = '\u2029' ||
    c = '\u202F' || c = '\u205F' || c = '\u3000'

/-- Go's `strings.TrimSpace(s)`. -/
def trimSpace (s : String) : String :=
  ⟨((s.data.dropWhile isGoSpace).reverse.dropWhile isGoSpace).reverse⟩

/-- How the readers read a file that may be missing: its content, `none` when it does not
exist, and the error otherwise. The errors `readFile` returns are not wrapped, so
`os.IsNotExist` and `errors.Is(err, os.ErrNotExist)` agree on them. -/
def readOptional (fs : TreeFS) (p : Path) : Except Error (Option String) :=
  match fs.readFile p with
  | .ok content => .ok (some content)
  | .error err => if err.Is .errNotExist then .ok none else .error err

/-- A time the readers parse from an optional file, the zero time when it is missing. -/
def parseOptional {τ : Type} (time : GoTime τ) (layout : String) : Option String → Except Error τ
  | none => .ok time.zero
  | some content => time.Parse layout (trimSpace content)

/-! ## Locks -/

/-- Go's `repository.Actor`. -/
structure Actor where
  Name : String
  Email : String
  deriving DecidableEq, Repr

/-- Go's `repository.Lock`. -/
structure Lock (τ : Type) where
  Message : String
  CreatedBy : Actor
  CreatedAt : τ

section Locks

variable {τ : Type} (time : GoTime τ)

/-- Go's `readLock(fs, lockDir)`. -/
def readLock (fs : TreeFS) (lockDir : Path) : Except Error (Lock τ) := do
  let message ← readOptional fs (join (lockDir ++ ["message"]))
  let email ← readOptional fs (join (lockDir ++ ["created_by_email"]))
  let name ← readOptional fs (join (lockDir ++ ["created_by_name"]))
  let createdAt ← readOptional fs (join (lockDir ++ ["created_at"])) >>= parseOptional time RFC3339
  pure ⟨message.getD "", ⟨name.getD "", email.getD ""⟩, createdAt⟩

/-- One entry of the locks directory `base`: it must be a directory holding a lock. -/
def addLock (fs : TreeFS) (base : Path) (fileError : String) (result : AList fun _ : String => Lock τ)
    (e : FileInfo) : Except Error (AList fun _ : String => Lock τ) :=
  if !e.isDir then .error (.text fileError)
  else (readLock time fs (join (base ++ [e.name]))).map fun lock => result.insert e.name lock

/-- The loop `GetEnvironmentLocks` and `GetEnvironmentApplicationLocks` share: list the
locks directory `base` and read a lock from each entry. -/
def readLocks (fs : TreeFS) (base : Path) (fileError : String) : Except Error (AList fun _ : String => Lock τ) :=
  match fs.ReadDir base with
  | .error err => .error err
  | .ok entries => entries.foldlM (addLock time fs base fileError) ∅

/-- Go's `State.GetEnvironmentLocks(environment)`. -/
def State.GetEnvironmentLocks (s : State) (environment : String) : Except Error (AList fun _ : String => Lock τ) :=
  readLocks time s.Filesystem (join ["environments", environment, "locks"])
    "error getting environment locks: found file in the locks directory. run migration script to generate correct metadata"

/-- Go's `State.GetEnvironmentApplicationLocks(environment, application)`. -/
def State.GetEnvironmentApplicationLocks (s : State) (environment application : String) :
    Except Error (AList fun _ : String => Lock τ) :=
  readLocks time s.Filesystem (join ["environments", environment, "applications", application, "locks"])
    "error getting application locks: found file in the locks directory. run migration script to generate correct metadata"

variable {fs : TreeFS} {base : Path} {fileError : String}

/-- The lock a name of the locks directory reads as, when it reads. -/
def LockAt (fs : TreeFS) (base : Path) (name : String) (lock : Lock τ) : Prop :=
  readLock time fs (join (base ++ [name])) = .ok lock

/-- One entry is added exactly when it is a directory whose lock reads. -/
theorem addLock_eq_ok {acc acc' : AList fun _ : String => Lock τ} {e : FileInfo} :
    addLock time fs base fileError acc e = .ok acc' ↔
      e.isDir = true ∧ ∃ lock, LockAt time fs base e.name lock ∧ acc' = acc.insert e.name lock := by
  unfold addLock LockAt
  cases e.isDir <;> cases readLock time fs (join (base ++ [e.name])) <;> simp [Except.map, eq_comm]

/-- The loop goes through the listing exactly when every entry is a directory whose lock
reads; then it adds each entry's lock under the entry's name and keeps the other names. -/
theorem foldlM_addLock {entries : List FileInfo} {acc m : AList fun _ : String => Lock τ}
    (run : entries.foldlM (addLock time fs base fileError) acc = .ok m) :
    (∀ e ∈ entries, e.isDir = true ∧ ∃ lock, LockAt time fs base e.name lock) ∧
    (∀ name, (∃ e ∈ entries, e.name = name) → ∃ lock, LockAt time fs base name lock ∧ m.lookup name = some lock) ∧
    ∀ name, (¬∃ e ∈ entries, e.name = name) → m.lookup name = acc.lookup name := by
  induction entries generalizing acc with
  | nil =>
    cases run
    exact ⟨nofun, fun _ ⟨_, mem, _⟩ => absurd mem (List.not_mem_nil _), fun _ _ => rfl⟩
  | cons e rest ih =>
    obtain ⟨_, added, run⟩ := Except.bind_eq_ok.1 run
    obtain ⟨isDir, lock, read, rfl⟩ := (addLock_eq_ok time).1 added
    obtain ⟨good, entered, kept⟩ := ih run
    refine ⟨fun e' mem => ?_, fun name ⟨e', mem, same⟩ => ?_, fun name absent => ?_⟩
    · rcases List.mem_cons.1 mem with rfl | mem
      exacts [⟨isDir, lock, read⟩, good e' mem]
    · by_cases later : ∃ e'' ∈ rest, e''.name = name
      · exact entered name later
      · rcases List.mem_cons.1 mem with rfl | mem
        · exact ⟨lock, same ▸ read, by rw [kept name later, ← same, AList.lookup_insert]⟩
        · exact absurd ⟨e', mem, same⟩ later
    · have other : name ≠ e.name := fun same => absent ⟨e, List.mem_cons_self _ _, same.symm⟩
      rw [kept name fun ⟨e', mem, same⟩ => absent ⟨e', List.mem_cons_of_mem _ mem, same⟩,
        AList.lookup_insert_ne other]

/-- The loop goes through a listing whose entries are directories with readable locks. -/
theorem foldlM_addLock_ok {entries : List FileInfo}
    (good : ∀ e ∈ entries, e.isDir = true ∧ ∃ lock, LockAt time fs base e.name lock)
    (acc : AList fun _ : String => Lock τ) :
    ∃ m, entries.foldlM (addLock time fs base fileError) acc = .ok m := by
  induction entries generalizing acc with
  | nil => exact ⟨acc, rfl⟩
  | cons e rest ih =>
    obtain ⟨isDir, lock, read⟩ := good e (List.mem_cons_self _ _)
    obtain ⟨m, run⟩ := ih (fun e' mem => good e' (List.mem_cons_of_mem _ mem)) (acc.insert e.name lock)
    rw [List.foldlM_cons, (addLock_eq_ok time).2 ⟨isDir, lock, read, rfl⟩]
    exact ⟨m, run⟩

/-- **A locks directory is read as a map exactly when each entry is a directory whose lock
reads.** A loose file in it, which the migration script removes, makes the reader fail.
When the reader returns a map, the map holds one lock for each entry of the listing, under
the entry's name, read from that entry's directory, and nothing else. -/
theorem readLocks_ok (fs : TreeFS) (base : Path) (fileError : String) :
    ((∃ m, readLocks time fs base fileError = .ok m) ↔
      ∃ entries, fs.ReadDir base = .ok entries ∧
        ∀ e ∈ entries, e.isDir = true ∧ ∃ lock, LockAt time fs base e.name lock) ∧
    ∀ m, readLocks time fs base fileError = .ok m → ∃ entries, fs.ReadDir base = .ok entries ∧
      (∀ name, (m.lookup name).isSome ↔ ∃ e ∈ entries, e.name = name) ∧
      ∀ name lock, m.lookup name = some lock → LockAt time fs base name lock := by
  unfold readLocks
  cases listed : fs.ReadDir base with
  | error err => simp
  | ok entries =>
    simp only [Except.ok.injEq, exists_eq_left']
    refine ⟨⟨fun ⟨m, run⟩ => (foldlM_addLock time run).1, fun good => foldlM_addLock_ok time good ∅⟩,
      fun m run => ⟨fun name => ?_, fun name lock found => ?_⟩⟩
    · obtain ⟨-, entered, kept⟩ := foldlM_addLock time run
      by_cases entry : ∃ e ∈ entries, e.name = name
      · obtain ⟨lock, -, found⟩ := entered name entry
        simp [found, entry]
      · simp [kept name entry, entry]
    · obtain ⟨-, entered, kept⟩ := foldlM_addLock time run
      by_cases entry : ∃ e ∈ entries, e.name = name
      · obtain ⟨lock', read, found'⟩ := entered name entry
        rw [found] at found'
        exact (Option.some.inj found') ▸ read
      · simp [kept name entry] at found

end Locks

/-! ## Releases and deployments -/

/-- Go's `repository.Release`. -/
structure Release (τ : Type) where
  Version : UInt64
  UndeployVersion : Bool
  SourceAuthor : String
  SourceCommitId : String
  SourceMessage : String
  CreatedAt : τ
  DisplayVersion : String

/-- Modelled from the spec: the package's `releasesDirectoryWithVersion(fs, application,
version)`, the directory `applications/<app>/releases/<N>`. -/
def releasesDirectoryWithVersion (application : String) (version : UInt64) : Path :=
  join ["applications", application, "releases", toString version]

section Releases

variable {τ : Type} (time : GoTime τ)

/-- Go's `State.IsUndeployVersion(application, version)`. -/
def State.IsUndeployVersion (s : State) (application : String) (version : UInt64) : Except Error Bool :=
  let base := releasesDirectoryWithVersion application version
  match s.Filesystem.Stat base with
  | .error err => .error (wrapFileError err base "could not call stat")
  | .ok _ => (readOptional s.Filesystem (join (base ++ ["undeploy"]))).map Option.isSome

/-- Go's `State.GetApplicationRelease(application, version)`. -/
def State.GetApplicationRelease (s : State) (application : String) (version : UInt64) :
    Except Error (Release τ) :=
  let base := releasesDirectoryWithVersion application version
  match s.Filesystem.Stat base with
  | .error err => .error (wrapFileError err base "could not call stat")
  | .ok _ => do
    let commitId ← readOptional s.Filesystem (join (base ++ ["source_commit_id"]))
    let author ← readOptional s.Filesystem (join (base ++ ["source_author"]))
    let message ← readOptional s.Filesystem (join (base ++ ["source_message"]))
    let displayVersion ← readOptional s.Filesystem (join (base ++ ["display_version"]))
    let isUndeploy ← s.IsUndeployVersion application version
    let createdAt ← readOptional s.Filesystem (join (base ++ ["created_at"])) >>= parseOptional time RFC3339
    pure ⟨version, isUndeploy, author.getD "", commitId.getD "", message.getD "", createdAt,
      displayVersion.getD ""⟩

/-- Go's `State.GetDeploymentMetaData(ctx, environment, application)`: who deployed and
when. A missing `deployed_by` gives no author and the zero time, whatever
`deployed_at_utc` holds. -/
def State.GetDeploymentMetaData (s : State) (environment application : String) : Except Error (String × τ) :=
  let base := join ["environments", environment, "applications", application]
  match readOptional s.Filesystem (join (base ++ ["deployed_by"])) with
  | .error err => .error err
  | .ok none => .ok ("", time.zero)
  | .ok (some author) =>
    match readOptional s.Filesystem (join (base ++ ["deployed_at_utc"])) with
    | .error err => .error err
    | .ok none => .ok (author, time.zero)
    | .ok (some deployedAt) => (time.Parse deployedAtLayout (trimSpace deployedAt)).map fun t => (author, t)

/-- A release is read only when its directory exists, each of its metadata files is
readable or missing, and a creation time that is there parses. Every field of what it
returns is the content of its file, or the field's zero value when the file is missing. -/
theorem State.GetApplicationRelease_ok {s : State} {application : String} {version : UInt64} {r : Release τ}
    (read : s.GetApplicationRelease time application version = .ok r) :
    (∃ info, s.Filesystem.Stat (releasesDirectoryWithVersion application version) = .ok info) ∧
    r.Version = version ∧
    (readOptional s.Filesystem (join (releasesDirectoryWithVersion application version ++ ["source_commit_id"]))).map
      (·.getD "") = .ok r.SourceCommitId ∧
    (readOptional s.Filesystem (join (releasesDirectoryWithVersion application version ++ ["source_author"]))).map
      (·.getD "") = .ok r.SourceAuthor ∧
    (readOptional s.Filesystem (join (releasesDirectoryWithVersion application version ++ ["source_message"]))).map
      (·.getD "") = .ok r.SourceMessage ∧
    (readOptional s.Filesystem (join (releasesDirectoryWithVersion application version ++ ["display_version"]))).map
      (·.getD "") = .ok r.DisplayVersion ∧
    (readOptional s.Filesystem (join (releasesDirectoryWithVersion application version ++ ["undeploy"]))).map
      Option.isSome = .ok r.UndeployVersion ∧
    (readOptional s.Filesystem (join (releasesDirectoryWithVersion application version ++ ["created_at"])) >>=
      parseOptional time RFC3339) = .ok r.CreatedAt := by
  unfold State.GetApplicationRelease State.IsUndeployVersion at read
  cases stat : s.Filesystem.Stat (releasesDirectoryWithVersion application version) with
  | error err => simp [stat] at read
  | ok info =>
    simp only [stat] at read
    obtain ⟨commitId, readCommitId, read⟩ := Except.bind_eq_ok.1 read
    obtain ⟨author, readAuthor, read⟩ := Except.bind_eq_ok.1 read
    obtain ⟨message, readMessage, read⟩ := Except.bind_eq_ok.1 read
    obtain ⟨displayVersion, readDisplayVersion, read⟩ := Except.bind_eq_ok.1 read
    obtain ⟨undeploy, readUndeploy, read⟩ := Except.bind_eq_ok.1 read
    obtain ⟨createdAt, readCreatedAt, read⟩ := Except.bind_eq_ok.1 read
    cases read
    exact ⟨⟨info, rfl⟩, rfl, by rw [readCommitId]; rfl, by rw [readAuthor]; rfl, by rw [readMessage]; rfl,
      by rw [readDisplayVersion]; rfl, readUndeploy, readCreatedAt⟩

end Releases

/-- Go's `State.ReleaseManifests(application, release)`: the manifest of each environment
of a release, failing at the first that cannot be read. -/
def State.ReleaseManifests (s : State) (application : String) (release : UInt64) :
    Except Error (AList fun _ : String => String) :=
  let base := join ["applications", application, "releases", toString release, "environments"]
  match s.Filesystem.ReadDir base with
  | .error err => .error err
  | .ok entries => entries.foldlM (fun result e =>
      (s.Filesystem.readFile (join (base ++ [e.name, "manifests.yaml"]))).map fun buf => result.insert e.name buf) ∅

/-- Go's `State.GetApplications()`. -/
def State.GetApplications (s : State) : Except Error (List String) := names s.Filesystem ["applications"]

/-- Go's `State.GetApplicationSourceRepoUrl(application)`. -/
def State.GetApplicationSourceRepoUrl (s : State) (application : String) : Except Error String :=
  s.readApplicationFile application "sourceRepoUrl" "error while reading sourceRepoUrl file for application "

end Kuberpult
