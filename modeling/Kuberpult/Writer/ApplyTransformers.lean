import Kuberpult.Writer.World

/-! Applying one request's transformers (`repository.ApplyTransformers`): open the state
at the branch, run the transformers in order, update the metrics, render the Argo CD
manifests, and commit the tree on top of the branch with the request's user as author.
`ApplyTransformers_cases` says everything one call can do: fail and change nothing but
the clock, or add exactly one commit, made from the element's transformers, on top of
the branch. The writer's proofs use it and never unfold the definition. -/
namespace Kuberpult

/-- The empty change-set, `&TransformerResult{}`. -/
def TransformerResult.empty : TransformerResult := ⟨[], [], none⟩

@[simp] theorem TransformerResult.empty_ChangedApps : TransformerResult.empty.ChangedApps = [] := rfl

@[simp] theorem TransformerResult.empty_DeletedRootApps : TransformerResult.empty.DeletedRootApps = [] := rfl

/-- Go's `(*TransformerResult).Combine(other)`: appends the other's changed and deleted
applications; the first change-set with commit ids keeps them. -/
def TransformerResult.Combine (r : TransformerResult) : Option TransformerResult → TransformerResult
  | none => r
  | some other =>
    { ChangedApps := r.ChangedApps ++ other.ChangedApps,
      DeletedRootApps := r.DeletedRootApps ++ other.DeletedRootApps,
      Commits := match r.Commits with
        | none => other.Commits
        | some ids => some ids }

/-- Go's `CombineArray(others)`. -/
def CombineArray (others : List (Option TransformerResult)) : TransformerResult :=
  others.foldl TransformerResult.Combine .empty

@[simp] theorem TransformerResult.Combine_none (r : TransformerResult) : r.Combine none = r := rfl

@[simp] theorem TransformerResult.Combine_ChangedApps (r other : TransformerResult) :
    (r.Combine (some other)).ChangedApps = r.ChangedApps ++ other.ChangedApps := rfl

@[simp] theorem TransformerResult.Combine_DeletedRootApps (r other : TransformerResult) :
    (r.Combine (some other)).DeletedRootApps = r.DeletedRootApps ++ other.DeletedRootApps := rfl

section Apply

variable (io : Collaborators) (cfg : RepositoryConfig)

/-- Go's `repository.StateAt(nil)`: the state at the branch, empty when the branch has
no commit yet. -/
def StateAt (w : World) : Except Error State :=
  match w.head with
  | none => .ok ⟨.empty, none, cfg.BootstrapMode, cfg.EnvironmentConfigsPath⟩
  | some oid =>
    match w.lookup oid with
    | some c => .ok ⟨c.tree, some oid, cfg.BootstrapMode, cfg.EnvironmentConfigsPath⟩
    | none => .error (.io ("object not found - no match for id " ++ toString oid))

/-- The loop of `ApplyTransformersInternal`: each transformer writes to the state the next
one reads, and the first error ends the loop. -/
def runTransformers (tctx : TransformContext) : State → List Transformer →
    Except Error (List String × State × List (Option TransformerResult))
  | state, [] => .ok ([], state, [])
  | state, t :: ts =>
    match t.Transform tctx state with
    | .error err => .error err
    | .ok (msg, subChanges, fs) =>
      match runTransformers tctx { state with Filesystem := fs } ts with
      | .error err => .error err
      | .ok (msgs, final, changes) => .ok (msg :: msgs, final, subChanges :: changes)

/-- Go's `repository.ApplyTransformersInternal(ctx, transformers...)`. -/
def ApplyTransformersInternal (ctx : Context) (transformers : List Transformer) (w : World) :
    Except Error (List String × State × List (Option TransformerResult)) × World :=
  match StateAt cfg w with
  | .error err => (.error (.grpcInternal (.wrap "failure in StateAt: " err)), w)
  | .ok state =>
    let (now, w) := w.readClock
    (runTransformers ⟨ctx, now⟩ state transformers, w)

/-- Go's `repository.ApplyTransformers(ctx, transformers...)`. Inserting the tree and
storing the commit do not fail: the object database is the world's list of commits. -/
def ApplyTransformers (ctx : Context) (transformers : List Transformer) (w : World) :
    Except Error TransformerResult × World :=
  match ApplyTransformersInternal cfg ctx transformers w with
  | (.error err, w) => (.error err, w)
  | (.ok (commitMsg, state, changes), w) =>
    match io.updateDatadogMetrics state with
    | .error err => (.error err, w)
    | .ok () =>
      match afterTransform io cfg state with
      | .error err => (.error (.grpcInternal (.wrap "failure in afterTransform: " err)), w)
      | .ok treeId =>
        let (now, w) := w.readClock
        let committer : Signature := ⟨cfg.CommitterName, cfg.CommitterEmail, now⟩
        match ReadUserFromContext ctx with
        | .error err => (.error err, w)
        | .ok user =>
          let (now, w) := w.readClock
          let author : Signature := ⟨user.Name, user.Email, now⟩
          let rev := state.Commit
          let (newCommitId, w) :=
            w.createCommit ⟨treeId, rev, "\n".intercalate commitMsg, author, committer⟩
          (.ok { CombineArray changes with Commits := some ⟨rev, newCommitId⟩ }, w)

/-! ## What one application does -/

/-- The commit an element's transformers make on a state, applied at time `now` and
signed at the times `committed` and `authored`: the tree after the transformers and
`afterTransform`, the messages joined by newlines, the context's user as author and the
configured committer, on top of the state's commit. -/
def ElementCommit (ctx : Context) (transformers : List Transformer) (state : State)
    (now committed authored : Time) : Except Error (Commit × List (Option TransformerResult)) :=
  match runTransformers ⟨ctx, now⟩ state transformers with
  | .error err => .error err
  | .ok (msgs, final, changes) =>
    match io.updateDatadogMetrics final with
    | .error err => .error err
    | .ok () =>
      match afterTransform io cfg final with
      | .error err => .error (.grpcInternal (.wrap "failure in afterTransform: " err))
      | .ok tree =>
        match ReadUserFromContext ctx with
        | .error err => .error err
        | .ok user => .ok (⟨tree, state.Commit, "\n".intercalate msgs, ⟨user.Name, user.Email, authored⟩,
            ⟨cfg.CommitterName, cfg.CommitterEmail, committed⟩⟩, changes)

/-- The transformers change nothing of the state but its tree. -/
theorem runTransformers_state (tctx : TransformContext) (state : State) (ts : List Transformer)
    {msgs : List String} {final : State} {changes : List (Option TransformerResult)}
    (ran : runTransformers tctx state ts = .ok (msgs, final, changes)) :
    final = { state with Filesystem := final.Filesystem } := by
  induction ts generalizing state msgs changes with
  | nil =>
    simp only [runTransformers, Except.ok.injEq, Prod.mk.injEq] at ran
    rw [← ran.2.1]
  | cons t ts ih =>
    simp only [runTransformers] at ran
    split at ran
    · cases ran
    · split at ran
      · cases ran
      · rename_i ranRest
        simp only [Except.ok.injEq, Prod.mk.injEq] at ran
        obtain ⟨-, rfl, -⟩ := ran
        have inner := ih _ ranRest
        exact inner

theorem runTransformers_commit (tctx : TransformContext) (state : State) (ts : List Transformer)
    {msgs : List String} {final : State} {changes : List (Option TransformerResult)}
    (ran : runTransformers tctx state ts = .ok (msgs, final, changes)) : final.Commit = state.Commit := by
  rw [runTransformers_state tctx state ts ran]

/-- The state opened at the branch has the branch's commit. -/
theorem StateAt_commit {w : World} {state : State} (opened : StateAt cfg w = .ok state) :
    state.Commit = w.head := by
  unfold StateAt at opened
  cases head : w.head with
  | none => simp only [head, Except.ok.injEq] at opened; rw [← opened]
  | some oid =>
    simp only [head] at opened
    split at opened
    · simp only [Except.ok.injEq] at opened; rw [← opened]
    · cases opened

/-- Everything one application can do: fail to open the state, or fail where
`ElementCommit` fails, and change nothing but the clock; or store `ElementCommit`'s commit
on top of the branch and return the combined change-sets with the two commit ids. -/
theorem ApplyTransformers_cases {ctx : Context} {ts : List Transformer} {w w' : World}
    {r : Except Error TransformerResult} (run : ApplyTransformers io cfg ctx ts w = (r, w')) :
    (∃ err, StateAt cfg w = .error err ∧ r = .error (.grpcInternal (.wrap "failure in StateAt: " err)) ∧ w' = w) ∨
    (∃ state err, StateAt cfg w = .ok state ∧
      ElementCommit io cfg ctx ts state (w.clock.headD 0) (w.clock.tail.headD 0) (w.clock.tail.tail.headD 0) = .error err ∧
      r = .error err ∧ w' = { w with clock := w'.clock }) ∨
    (∃ state c changes, StateAt cfg w = .ok state ∧
      ElementCommit io cfg ctx ts state (w.clock.headD 0) (w.clock.tail.headD 0) (w.clock.tail.tail.headD 0) = .ok (c, changes) ∧
      r = .ok { CombineArray changes with Commits := some ⟨w.head, ⟨w.odb.length⟩⟩ } ∧
      w' = { w with clock := w.clock.tail.tail.tail, odb := w.odb ++ [c], head := some ⟨w.odb.length⟩ }) := by
  unfold ApplyTransformers ApplyTransformersInternal at run
  cases opened : StateAt cfg w with
  | error err =>
    simp only [opened, Prod.mk.injEq] at run
    exact .inl ⟨err, rfl, run.1.symm, run.2.symm⟩
  | ok state =>
    right
    simp only [opened, World.readClock] at run
    cases ran : runTransformers ⟨ctx, w.clock.headD 0⟩ state ts with
    | error err =>
      simp only [ran, Prod.mk.injEq] at run
      exact .inl ⟨state, err, rfl, by simp only [ElementCommit, ran], run.1.symm, by rw [← run.2]⟩
    | ok result =>
      obtain ⟨msgs, final, changes⟩ := result
      simp only [ran] at run
      cases metrics : io.updateDatadogMetrics final with
      | error err =>
        simp only [metrics, Prod.mk.injEq] at run
        exact .inl ⟨state, err, rfl, by simp only [ElementCommit, ran, metrics], run.1.symm, by rw [← run.2]⟩
      | ok done =>
        cases done
        simp only [metrics] at run
        cases after : afterTransform io cfg final with
        | error err =>
          simp only [after, Prod.mk.injEq] at run
          exact .inl ⟨state, _, rfl, by simp only [ElementCommit, ran, metrics, after], run.1.symm, by rw [← run.2]⟩
        | ok tree =>
          simp only [after] at run
          cases user : ReadUserFromContext ctx with
          | error err =>
            simp only [user, Prod.mk.injEq] at run
            exact .inl ⟨state, err, rfl, by simp only [ElementCommit, ran, metrics, after, user], run.1.symm,
              by rw [← run.2]⟩
          | ok u =>
            simp only [user, World.createCommit, Prod.mk.injEq] at run
            have parent := (runTransformers_commit _ _ _ ran).trans (StateAt_commit cfg opened)
            refine .inr ⟨state, _, changes, rfl, by simp only [ElementCommit, ran, metrics, after, user]; rfl, ?_, ?_⟩
            · rw [← run.1, parent]
            · rw [← run.2, runTransformers_commit _ _ _ ran]

/-- A failed application changes nothing but the clock. -/
theorem ApplyTransformers_error {ctx : Context} {ts : List Transformer} {w w' : World} {err : Error}
    (run : ApplyTransformers io cfg ctx ts w = (.error err, w')) : w' = { w with clock := w'.clock } := by
  rcases ApplyTransformers_cases io cfg run with ⟨_, _, _, same⟩ | ⟨_, _, _, _, _, same⟩ | ⟨_, _, _, _, _, ok, _⟩
  · rw [same]
  · exact same
  · cases ok

/-- A successful application stores `ElementCommit`'s commit on top of the branch. -/
theorem ApplyTransformers_ok {ctx : Context} {ts : List Transformer} {w w' : World}
    {result : TransformerResult} (run : ApplyTransformers io cfg ctx ts w = (.ok result, w')) :
    ∃ state c changes, StateAt cfg w = .ok state ∧
      ElementCommit io cfg ctx ts state (w.clock.headD 0) (w.clock.tail.headD 0) (w.clock.tail.tail.headD 0) =
        .ok (c, changes) ∧
      result = { CombineArray changes with Commits := some ⟨w.head, ⟨w.odb.length⟩⟩ } ∧
      w' = { w with clock := w.clock.tail.tail.tail, odb := w.odb ++ [c], head := some ⟨w.odb.length⟩ } := by
  rcases ApplyTransformers_cases io cfg run with ⟨_, _, failed, _⟩ | ⟨_, _, _, _, failed, _⟩ | ⟨state, c, changes, opened, made, ok, after⟩
  · cases failed
  · cases failed
  · exact ⟨state, c, changes, opened, made, Except.ok.inj ok, after⟩

/-- No application touches the queue or the result channels. -/
theorem ApplyTransformers_sent {ctx : Context} {ts : List Transformer} {w w' : World}
    {r : Except Error TransformerResult} (run : ApplyTransformers io cfg ctx ts w = (r, w')) :
    w'.sent = w.sent ∧ w'.queue = w.queue := by
  rcases ApplyTransformers_cases io cfg run with ⟨-, -, -, rfl⟩ | ⟨-, -, -, -, -, same⟩ | ⟨-, -, -, -, -, -, rfl⟩
  · exact ⟨rfl, rfl⟩
  · rw [same]; exact ⟨rfl, rfl⟩
  · exact ⟨rfl, rfl⟩

end Apply

end Kuberpult
