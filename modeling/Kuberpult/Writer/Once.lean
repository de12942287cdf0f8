import Kuberpult.Writer.Pass

/-! A whole call of `ProcessQueueOnce`. `ProcessQueueOnce_cases` lists its paths once:
drain, apply the batch, then return early, or push and, after a non-fast-forward
rejection, fetch, reset, re-apply and push again. The results below are assembled from it
and from the step lemmas of `Writer/Pass.lean`.

Each push path also has a lemma that gives the call as the code runs it, and a fixed run
through it shows where the code departs from what its first path does: the webhook's
payload names the first commit of a batch as the pushed one
(`webhook_names_first_commit`); a push error falls through to the webhook and the notifier
(`refused_push_notifies`); and after the recovery from a non-fast-forward rejection, a push
whose reference update the remote reports as not done still gets `nil`
(`recovery_push_ignores_branch_report`). -/
namespace Kuberpult

section Once

variable (io : Collaborators) (cfg : RepositoryConfig)

/-- Draining keeps the live elements of the queue, in order, and sends each cancelled one
its context's error. -/
theorem drainQueue_eq (w : World) :
    drainQueue w = (liveElements w.queue, { w with queue := [], sent := w.sent ++ cancelledSends w.queue }) := by
  simp only [drainQueue, drainFrom_eq, List.nil_append]

/-- A call whose first push returns no error, as the code runs it: the flag the callback
left decides between `nil` and the branch-protection error. -/
theorem ProcessQueueOnce_pushed {e : Element} {callback : PushUpdateFunc} {w w₁ w₂ : World} {S : List Element}
    {changes : TransformerResult} {flag : Bool} (live : e.ctx.Err = none)
    (applied : applyElements io cfg (e :: (drainQueue w).1) true (drainQueue w).2 = ((S, none, changes), w₁))
    (nonempty : S.isEmpty = false) (pushed : Push (callback cfg.Branch) maxPushRetries true w₁ = (none, flag, w₂)) :
    ProcessQueueOnce io cfg e callback w =
      postPush cfg S (if flag then none else some (branchProtectionError cfg)) changes w₂ := by
  rcases drained : drainQueue w with ⟨drained, wd⟩
  rw [drained] at applied
  cases flag <;> simp [ProcessQueueOnce, live, drained, applied, nonempty, pushed]

/-- Requests 1 and 2 drained into one batch, pushed together. -/
def batchCall : World :=
  ProcessQueueOnce sampleCollaborators sampleConfig (sampleElement 1 "one") defaultPushUpdate
    { sampleWorld [acceptedPush] [] with queue := [sampleElement 2 "two"] }

/-- Two requests pushed together: the branch is at the second commit, the webhook's
payload names the first. -/
theorem webhook_names_first_commit :
    batchCall.sent = [(1, none), (2, none)] ∧ batchCall.head = some ⟨1⟩ ∧
      batchCall.webhooks.map (fun data => data.change.payloadAfter) = ["0"] := by
  let first := applyElements sampleCollaborators sampleConfig
    (sampleElement 1 "one" :: (drainQueue { sampleWorld [acceptedPush] [] with queue := [sampleElement 2 "two"] }).1)
    true (drainQueue { sampleWorld [acceptedPush] [] with queue := [sampleElement 2 "two"] }).2
  let pushed := Push (defaultPushUpdate sampleConfig.Branch) maxPushRetries true first.2
  have applied : first = ((first.1.1, none, first.1.2.2), first.2) := rfl
  have accepted : pushed = (none, pushed.2.1, pushed.2.2) := rfl
  rw [batchCall, ProcessQueueOnce_pushed sampleCollaborators sampleConfig rfl applied rfl accepted]
  decide

/-- A call whose first push fails for another reason than a diverged branch, as the code
runs it: a cancellation or a deadline, or else a missing write access. -/
theorem ProcessQueueOnce_push_failed {e : Element} {callback : PushUpdateFunc} {w w₁ w₂ : World}
    {S : List Element} {changes : TransformerResult} {err : Error} {flag : Bool} (live : e.ctx.Err = none)
    (applied : applyElements io cfg (e :: (drainQueue w).1) true (drainQueue w).2 = ((S, none, changes), w₁))
    (nonempty : S.isEmpty = false) (pushed : Push (callback cfg.Branch) maxPushRetries true w₁ = (some err, flag, w₂))
    (other : err.IsNonFastForward = false) :
    ProcessQueueOnce io cfg e callback w = postPush cfg S
      (some (if err.Is .deadlineExceeded || err.Is .canceled then err.grpcCanceled else noWriteAccessError cfg))
      changes w₂ := by
  rcases drained : drainQueue w with ⟨drained, wd⟩
  rw [drained] at applied
  by_cases stopped : (err.Is .deadlineExceeded || err.Is .canceled) = true <;>
    simp [ProcessQueueOnce, live, drained, applied, nonempty, pushed, other, stopped]

/-- A push the remote refuses for want of write access; the back-off stops. -/
def refusedPush : PushAttempt := ⟨[], some (.io "permission denied"), true⟩

/-- Request 1 on an empty repository, whose push is refused for want of write access. -/
def refusedCall : World :=
  ProcessQueueOnce sampleCollaborators sampleConfig (sampleElement 1 "one") defaultPushUpdate
    (sampleWorld [refusedPush] [])

/-- `refusedCall` on its path: one pass, then the refused push. -/
theorem refusedCall_eq :
    let first := applyElements sampleCollaborators sampleConfig
      (sampleElement 1 "one" :: (drainQueue (sampleWorld [refusedPush] [])).1) true
      (drainQueue (sampleWorld [refusedPush] [])).2
    refusedCall = postPush sampleConfig first.1.1 (some (noWriteAccessError sampleConfig)) first.1.2.2
      (Push (defaultPushUpdate sampleConfig.Branch) maxPushRetries true first.2).2.2 := by
  intro first
  let pushed := Push (defaultPushUpdate sampleConfig.Branch) maxPushRetries true first.2
  have applied : first = ((first.1.1, none, first.1.2.2), first.2) := rfl
  have refused : pushed = (some (.io "permission denied"), pushed.2.1, pushed.2.2) := rfl
  exact ProcessQueueOnce_push_failed sampleCollaborators sampleConfig rfl applied rfl refused rfl

/-- A push refused for want of write access: the request gets the error, and the webhook
is still sent and the subscribers still notified. -/
theorem refused_push_notifies :
    refusedCall.sent = [(1, some (noWriteAccessError sampleConfig))] ∧ refusedCall.webhooks.length = 1 ∧
      refusedCall.notifications = 1 := by
  rw [refusedCall_eq]
  decide

/-- A call that recovers from a non-fast-forward rejection, as the code runs it: the result
of the second push decides the survivors' result, with the first pass's change-set. -/
theorem ProcessQueueOnce_recovery {e : Element} {callback : PushUpdateFunc} {w w₁ w₂ w₃ w₄ w₅ : World}
    {S S' : List Element} {changes changes' : TransformerResult} {nff : Error} {flag flag' : Bool}
    {pushErr : Option Error} (live : e.ctx.Err = none)
    (applied : applyElements io cfg (e :: (drainQueue w).1) true (drainQueue w).2 = ((S, none, changes), w₁))
    (nonempty : S.isEmpty = false) (pushed : Push (callback cfg.Branch) maxPushRetries true w₁ = (some nff, flag, w₂))
    (diverged : nff.IsNonFastForward = true) (reset : FetchAndReset w₂ = (none, w₃))
    (reapplied : applyElements io cfg S false w₃ = ((S', none, changes'), w₄)) (nonempty' : S'.isEmpty = false)
    (pushed' : Push (callback cfg.Branch) maxPushRetries flag w₄ = (pushErr, flag', w₅)) :
    ProcessQueueOnce io cfg e callback w = postPush cfg S' (pushErr.map .internal) changes w₅ := by
  rcases drained : drainQueue w with ⟨drained, wd⟩
  rw [drained] at applied
  cases pushErr <;>
    simp [ProcessQueueOnce, live, drained, applied, nonempty, pushed, diverged, reset, reapplied, nonempty', pushed']

/-- A push the remote rejects because the branch diverged. -/
def divergedPush : PushAttempt := ⟨[], some (.git .nonFastForward "cannot push non-fastforwardable reference"), false⟩

/-- A push that returns no error while the remote reports the branch as not updated. -/
def declinedPush : PushAttempt := ⟨[("refs/heads/master", "pre-receive hook declined")], none, false⟩

/-- The commit another writer pushed to the remote branch. -/
def remoteCommit : Commit :=
  ⟨.empty, none, "other writer", ⟨goString "other", goString "other@example.com", 0⟩,
    ⟨goString "kuberpult", goString "kuberpult@example.com", 0⟩⟩

/-- The same declined reference update is a branch-protection error after the first push,
and `nil` after the push that follows a fetch-and-reset. -/
theorem recovery_push_ignores_branch_report :
    (ProcessQueueOnce sampleCollaborators sampleConfig (sampleElement 1 "one") defaultPushUpdate
        (sampleWorld [declinedPush] [])).sent = [(1, some (branchProtectionError sampleConfig))] ∧
    (ProcessQueueOnce sampleCollaborators sampleConfig (sampleElement 1 "one") defaultPushUpdate
        (sampleWorld [divergedPush, declinedPush] [.fetched [remoteCommit] (some ⟨1⟩)])).sent = [(1, none)] := by
  refine ⟨by decide, ?_⟩
  let first := applyElements sampleCollaborators sampleConfig
    (sampleElement 1 "one" :: (drainQueue (sampleWorld [divergedPush, declinedPush] [.fetched [remoteCommit] (some ⟨1⟩)])).1)
    true (drainQueue (sampleWorld [divergedPush, declinedPush] [.fetched [remoteCommit] (some ⟨1⟩)])).2
  let pushed := Push (defaultPushUpdate sampleConfig.Branch) maxPushRetries true first.2
  let reset := FetchAndReset pushed.2.2
  let again := applyElements sampleCollaborators sampleConfig first.1.1 false reset.2
  let pushed' := Push (defaultPushUpdate sampleConfig.Branch) maxPushRetries pushed.2.1 again.2
  have applied : first = ((first.1.1, none, first.1.2.2), first.2) := rfl
  have diverged : pushed = (some (.git .nonFastForward "cannot push non-fastforwardable reference"), pushed.2.1,
    pushed.2.2) := rfl
  have fetched : reset = (none, reset.2) := rfl
  have reapplied : again = ((again.1.1, none, again.1.2.2), again.2) := rfl
  have accepted : pushed' = (none, pushed'.2.1, pushed'.2.2) := rfl
  rw [ProcessQueueOnce_recovery sampleCollaborators sampleConfig rfl applied rfl diverged rfl fetched reapplied rfl
    accepted]
  decide

/-- The head the last pass of a stretch of the writer from `w` to `w'` started from: the
branch as it was, unless the stretch fetched, which left the branch at the remote-tracking
reference. -/
def passStart (w w' : World) : Option Oid :=
  if w'.fetches.length = w.fetches.length then w.head else w'.tracking

/-- What the passes of a call before its last one did with the live elements `live` of its
batch, leaving `R` to the last pass. There may be none. The first starts at the branch the
call began at and goes through a prefix `pre` of the elements, each failing at its turn or
adding its commit; it stops before the rest `post` when an element's configuration cannot
be read, and `post` is empty when it went through all. When the call fetched twice, a
second pass goes through what the first left, from the branch the first fetch-and-reset
set, whose state opens. Each pass is read in the object database as it was after it, which
extends the one the call began with and is extended by the one of `w'`. -/
inductive PassesBefore (w w' : World) (live : List Element) : List Element → Prop
  | none : PassesBefore w w' live live
  | once {pre post added : List Element} {w₁ : World} {stop : Option Oid} (split : live = pre ++ post)
      (grown : w.odb <+: w₁.odb) (kept : w₁.odb <+: w'.odb) (pass : Pass io cfg w₁ w.head pre added stop) :
      PassesBefore w w' live (added ++ post)
  | twice {pre post added R : List Element} {w₁ w₂ : World} {stop stop' : Option Oid} {state : State}
      (split : live = pre ++ post) (grown : w.odb <+: w₁.odb) (kept : w₁.odb <+: w₂.odb) (kept' : w₂.odb <+: w'.odb)
      (pass : Pass io cfg w₁ w.head pre added stop) (fetched : StateAt cfg { w₂ with head := w.fetchedHead } = .ok state)
      (again : Pass io cfg w₂ w.fetchedHead (added ++ post) R stop') : PassesBefore w w' live R

section PassesBefore

variable {w w₀ w₁ w' : World} {live R : List Element}

theorem PassesBefore.mono (grows : w₁.odb <+: w'.odb) : PassesBefore io cfg w w₁ live R → PassesBefore io cfg w w' live R
  | .none => .none
  | .once split grown kept pass => .once split grown (kept.trans grows) pass
  | .twice split grown kept kept' pass fetched again => .twice split grown kept (kept'.trans grows) pass fetched again

theorem PassesBefore.of_sameRepository (same : w.SameRepository w₀) :
    PassesBefore io cfg w₀ w' live R → PassesBefore io cfg w w' live R := by
  have fetched : w₀.fetchedHead = w.fetchedHead := by
    simp only [World.fetchedHead, World.nextFetch, same.fetches, same.tracking]
  rintro (_ | ⟨split, grown, kept, pass⟩ | ⟨split, grown, kept, kept', pass, opened, again⟩)
  · exact .none
  · exact .once split (same.odb ▸ grown) kept (same.head ▸ pass)
  · exact .twice split (same.odb ▸ grown) kept kept' (same.head ▸ pass) (fetched ▸ opened) (fetched ▸ again)

end PassesBefore

/-- What `applyElements` does with a batch: its errors drop elements, first those of the
passes before its last (`before`, leaving `R`), then those of its last pass (`dropped`,
leaving `S`). When it returns no error, its last pass went through `R` from the head it
started from, and all its passes, seen from later, are passes before a later one. Its
error is the one of a fetch-and-reset that read the next answer of its fetch tape. -/
theorem applyElements_spec {elements S : List Element} {allow : Bool} {w w' : World} {err : Option Error}
    {changes : TransformerResult} (run : applyElements io cfg elements allow w = ((S, err, changes), w')) :
    ∃ before R dropped, w'.sent = w.sent ++ before ++ dropped ∧ PassesBefore io cfg w w' elements R ∧
      Drops before R elements ∧ Drops dropped S R ∧ w'.fetches <:+ w.fetches ∧
      (err = none → Pass io cfg w' (passStart w w') R S w'.head ∧
        ∀ w'', w'.odb <+: w''.odb → PassesBefore io cfg w w'' elements S) ∧
      (err.isSome → dropped = [] ∧ ∃ w₀, w₀.fetches = w.fetches ∧ FetchAndReset w₀ = (err, w')) := by
  rcases applyElements_cases io cfg run with ⟨rfl, pass⟩ | ⟨ctx, w₁, pass, failed, reset⟩ |
    ⟨R, ctx, w₁, w₂, pass, reset, rfl, again⟩
  · obtain ⟨dropped, sent, drops⟩ := applyLoop_drops io cfg pass
    obtain ⟨added, rfl, passed⟩ := applyLoop_pass io cfg pass
    obtain ⟨_, _, _, _, same⟩ := applyLoop_frame io cfg pass
    have start : passStart w w' = w.head := by simp [passStart, same]
    refine ⟨[], elements, dropped, by simpa using sent, .none, Drops.refl _, by simpa using drops,
      by simp only [same, List.suffix_refl], fun _ => ⟨by rw [start]; simpa using passed, fun w'' grows => ?_⟩,
      by simp⟩
    have once : PassesBefore io cfg w w'' elements (S ++ []) :=
      .once (List.append_nil _).symm (applyLoop_odb io cfg pass) grows passed
    simpa using once
  · obtain ⟨dropped, sent, drops⟩ := applyLoop_drops io cfg pass
    obtain ⟨pre, post, added, split, rfl, passed⟩ := applyLoop_interrupted io cfg pass
    obtain ⟨_, _, _, _, same⟩ := applyLoop_frame io cfg pass
    obtain ⟨_, _, _, reset', grows⟩ := FetchAndReset_frame reset
    refine ⟨dropped, added ++ post, [], by simpa [reset'] using sent,
      .once split (applyLoop_odb io cfg pass) (by rw [reset']; exact grows) passed, by simpa using drops,
      Drops.refl _, by rw [reset', same]; exact List.tail_suffix _, fun none => ?_,
      fun _ => ⟨rfl, w₁, by rw [same], reset⟩⟩
    simp [none] at failed
  · obtain ⟨dropped, sent, drops⟩ := applyLoop_drops io cfg pass
    obtain ⟨dropped', sent', drops'⟩ := applyLoop_drops io cfg again
    obtain ⟨pre, post, added, split, rfl, passed⟩ := applyLoop_interrupted io cfg pass
    obtain ⟨_, _, _, _, same⟩ := applyLoop_frame io cfg pass
    obtain ⟨_, _, _, _, same'⟩ := applyLoop_frame io cfg again
    obtain ⟨fetched, onTracking, state, opened⟩ := FetchAndReset_ok cfg reset
    obtain ⟨_, _, _, reset', grows⟩ := FetchAndReset_frame reset
    have head : w₂.head = w.fetchedHead := by rw [FetchAndReset_head reset, same]; rfl
    have fewer : w'.fetches.length < w.fetches.length := by
      have before : w₁.fetches = w.fetches := by rw [same]
      rw [same', ← before]
      exact fetched
    have start : passStart w w' = w₂.head := by
      rw [passStart, if_neg (Nat.ne_of_lt fewer), onTracking, same']
    have grows₁ : w₁.odb <+: w'.odb :=
      (show w₁.odb <+: w₂.odb by rw [reset']; exact grows).trans (applyLoop_odb io cfg again)
    obtain ⟨added', rfl, passed'⟩ := applyLoop_pass io cfg again
    refine ⟨dropped, added ++ post, dropped', by simp only [sent', reset', sent],
      .once split (applyLoop_odb io cfg pass) grows₁ passed, by simpa using drops, by simpa using drops',
      by rw [same', reset', same]; exact List.tail_suffix _, fun _ => ⟨by rw [start]; simpa using passed', ?_⟩,
      by simp⟩
    intro w'' grows''
    have reopened : StateAt cfg { w' with head := w.fetchedHead } = .ok state := by
      rw [← head]
      exact StateAt_of_grows cfg opened (applyLoop_odb io cfg again)
    simpa using PassesBefore.twice split (applyLoop_odb io cfg pass) grows₁ grows'' passed reopened
      (by rw [← head]; simpa using passed')

/-- Every path of a call whose first element is live. -/
theorem ProcessQueueOnce_cases {e : Element} (callback : PushUpdateFunc) (w : World) (live : e.ctx.Err = none) :
    ∃ S err changes w₁,
      applyElements io cfg (e :: (drainQueue w).1) true (drainQueue w).2 = ((S, err, changes), w₁) ∧
      (ProcessQueueOnce io cfg e callback w = finish S err w₁ ∧ (err.isSome ∨ S = []) ∨
       err = none ∧ S ≠ [] ∧ ∃ pushErr flag w₂,
        Push (callback cfg.Branch) maxPushRetries true w₁ = (pushErr, flag, w₂) ∧
        ((∃ result, (result = none → pushErr = none ∧ flag = true) ∧
            (∀ err, pushErr = some err → err.IsNonFastForward = false) ∧
            ProcessQueueOnce io cfg e callback w = postPush cfg S result changes w₂) ∨
         ∃ nff fetchErr w₃, pushErr = some nff ∧ nff.IsNonFastForward = true ∧ FetchAndReset w₂ = (fetchErr, w₃) ∧
          (fetchErr.isSome ∧ ProcessQueueOnce io cfg e callback w = finish S fetchErr w₃ ∨
           fetchErr = none ∧ ∃ S' changes' w₄, applyElements io cfg S false w₃ = ((S', none, changes'), w₄) ∧
            (S' = [] ∧ ProcessQueueOnce io cfg e callback w = finish S' none w₄ ∨
             S' ≠ [] ∧ ∃ pushErr' flag' w₅, Push (callback cfg.Branch) maxPushRetries flag w₄ = (pushErr', flag', w₅) ∧
              ∃ result, (result = none → pushErr' = none) ∧
                ProcessQueueOnce io cfg e callback w = postPush cfg S' result changes w₅)))) := by
  rcases applied : applyElements io cfg (e :: (drainQueue w).1) true (drainQueue w).2 with ⟨⟨S, err, changes⟩, w₁⟩
  refine ⟨S, err, changes, w₁, rfl, ?_⟩
  generalize call : ProcessQueueOnce io cfg e callback w = w'
  rcases drained : drainQueue w with ⟨drained, wd⟩
  simp only [drained] at applied
  simp only [ProcessQueueOnce, live, drained, applied] at call
  cases err with
  | some err => exact .inl ⟨call.symm, .inl rfl⟩
  | none =>
    simp only at call
    by_cases empty : S.isEmpty
    · simp only [empty, if_true] at call
      exact .inl ⟨call.symm, .inr (List.isEmpty_iff.1 empty)⟩
    simp only [empty, Bool.false_eq_true, if_false] at call
    rcases pushed : Push (callback cfg.Branch) maxPushRetries true w₁ with ⟨pushErr, flag, w₂⟩
    simp only [pushed] at call
    refine .inr ⟨rfl, fun nil => empty (List.isEmpty_iff.2 nil), pushErr, flag, w₂, rfl, ?_⟩
    cases pushErr with
    | none =>
      refine .inl ⟨if flag then none else some (branchProtectionError cfg), ?_, by simp, ?_⟩
      · cases flag <;> simp
      · cases flag <;> simpa using call.symm
    | some err =>
      by_cases nff : err.IsNonFastForward
      · simp only [nff, if_true] at call
        rcases reset : FetchAndReset w₂ with ⟨fetchErr, w₃⟩
        simp only [reset] at call
        refine .inr ⟨err, fetchErr, w₃, rfl, nff, rfl, ?_⟩
        cases fetchErr with
        | some fetchErr => exact .inl ⟨rfl, call.symm⟩
        | none =>
          simp only at call
          rcases again : applyElements io cfg S false w₃ with ⟨⟨S', err', changes'⟩, w₄⟩
          obtain ⟨rfl, -⟩ := applyElements_no_reset io cfg again
          simp only [again] at call
          refine .inr ⟨rfl, S', changes', w₄, rfl, ?_⟩
          by_cases empty' : S'.isEmpty
          · simp only [empty', if_true] at call
            exact .inl ⟨List.isEmpty_iff.1 empty', call.symm⟩
          simp only [empty', Bool.false_eq_true, if_false] at call
          rcases pushed' : Push (callback cfg.Branch) maxPushRetries flag w₄ with ⟨pushErr', flag', w₅⟩
          simp only [pushed'] at call
          refine .inr ⟨fun nil => empty' (List.isEmpty_iff.2 nil), pushErr', flag', w₅, rfl, ?_⟩
          cases pushErr' with
          | none => exact ⟨none, fun _ => rfl, call.symm⟩
          | some pushErr' => exact ⟨some pushErr'.internal, by simp, call.symm⟩
      · simp only [nff, Bool.false_eq_true, if_false] at call
        refine .inl ⟨if err.Is .deadlineExceeded || err.Is .canceled then some err.grpcCanceled
          else some (noWriteAccessError cfg), by split <;> simp, fun _ same => ?_, ?_⟩
        · cases same
          simpa using nff
        · split <;> simpa [*] using call.symm

theorem passStart_of_sameRepository {w w₀ w₁ w' : World} (before : w.SameRepository w₀)
    (after : w₁.SameRepository w') : passStart w w' = passStart w₀ w₁ := by
  simp only [passStart, before.head, before.fetches, after.fetches, after.tracking]

/-- The end of a call: the deferred send, after the webhook and the notifier or without them. -/
theorem final_send {S : List Element} {result : Option Error} {w₁ w' : World}
    (ends : w' = finish S result w₁ ∨ ∃ changes, w' = postPush cfg S result changes w₁) :
    w'.sent = w₁.sent ++ S.map (fun el => (el.id, result)) ∧ w₁.SameRepository w' := by
  rcases ends with rfl | ⟨changes, rfl⟩
  · exact ⟨by rw [finish_eq], finish_sameRepository _ _ _⟩
  · obtain ⟨_, _, same⟩ := postPush_eq cfg S result changes w₁
    exact ⟨by rw [same], postPush_sameRepository cfg _ _ _ _⟩

/-- What a call whose first element is live does, whatever the transformers and the remote
do. Its errors drop elements of the batch taken off the queue: first the cancelled ones,
then those of the passes before its last (`before`, leaving `R`), then those of its last
pass (`dropped`, leaving `S`); then it sends one final result to each element of `S`, in
order. Unless that result is the error of one of the call's fetch-and-resets, after which
the call changed nothing in the repository, the last pass went through `R` from the head
it started from and left the branch where the call leaves it. -/
theorem ProcessQueueOnce_final {e : Element} (callback : PushUpdateFunc) (w : World) {w' : World}
    (live : e.ctx.Err = none) (run : ProcessQueueOnce io cfg e callback w = w') :
    ∃ before R dropped S result,
      w'.sent = w.sent ++ cancelledSends w.queue ++ before ++ dropped ++ S.map (fun el => (el.id, result)) ∧
      PassesBefore io cfg w w' (e :: liveElements w.queue) R ∧ Drops before R (e :: liveElements w.queue) ∧
      Drops dropped S R ∧
      (Pass io cfg w' (passStart w w') R S w'.head ∨
        result.isSome ∧ ∃ w₀ w₁, w₀.fetches <:+ w.fetches ∧ FetchAndReset w₀ = (result, w₁) ∧ w₁.SameRepository w') := by
  have drainRepo : w.SameRepository (drainQueue w).2 := by rw [drainQueue_eq]; exact ⟨rfl, rfl, rfl, rfl⟩
  have drained : (drainQueue w).1 = liveElements w.queue := by rw [drainQueue_eq]
  have drainSent : (drainQueue w).2.sent = w.sent ++ cancelledSends w.queue := by rw [drainQueue_eq]
  obtain ⟨S, err, changes, w₁, applied, paths⟩ := ProcessQueueOnce_cases io cfg callback w live
  obtain ⟨before, R, dropped, sent, passes, drops₀, drops, fetches₁, passed, failed⟩ := applyElements_spec io cfg applied
  rw [drainSent] at sent
  rw [drainRepo.fetches] at fetches₁
  rw [drained] at passes drops₀ passed
  replace passes := passes.of_sameRepository io cfg drainRepo
  subst run
  rcases paths with ⟨ends, -⟩ | ⟨rfl, -, pushErr, flag, w₂, pushed, pushPaths⟩
  · obtain ⟨sends, repo⟩ := final_send cfg (.inl ends)
    refine ⟨before, R, dropped, S, err, by rw [sends, sent], passes.mono io cfg repo.grows, drops₀, drops, ?_⟩
    cases err with
    | none =>
      exact .inl (by rw [passStart_of_sameRepository drainRepo repo]; exact (passed rfl).1.of_sameRepository io cfg repo)
    | some err =>
      obtain ⟨-, w₀, fetches₀, reset⟩ := failed rfl
      exact .inr ⟨rfl, w₀, w₁, by simp only [fetches₀, drainRepo.fetches, List.suffix_refl], reset, repo⟩
  obtain ⟨pass₁, passesAll⟩ := passed rfl
  obtain ⟨pushes, pushFrame⟩ := Push_frame (callback cfg.Branch) maxPushRetries true w₁
  rw [pushed] at pushFrame
  subst pushFrame
  have pushRepo : w₁.SameRepository { w₁ with pushes := pushes } := ⟨rfl, rfl, rfl, rfl⟩
  rcases pushPaths with ⟨result, -, -, ends⟩ |
    ⟨nff, fetchErr, w₃, -, -, reset, ⟨fetchFailed, ends⟩ | ⟨rfl, S', changes', w₄, again, ends⟩⟩
  · obtain ⟨sends, repo⟩ := final_send cfg (.inr ⟨changes, ends⟩)
    have repoAll := pushRepo.trans repo
    refine ⟨before, R, dropped, S, result, by rw [sends, sent], passes.mono io cfg repoAll.grows, drops₀, drops, .inl ?_⟩
    rw [passStart_of_sameRepository drainRepo repoAll]
    exact pass₁.of_sameRepository io cfg repoAll
  · obtain ⟨sends, repo⟩ := final_send cfg (.inl ends)
    obtain ⟨_, _, _, reset', grows₃⟩ := FetchAndReset_frame reset
    have grows : w₁.odb <+: (ProcessQueueOnce io cfg e callback w).odb := by
      rw [repo.odb, reset']
      exact grows₃
    refine ⟨before ++ dropped, S, [], S, fetchErr, ?_,
      (passesAll _ grows).of_sameRepository io cfg drainRepo, drops₀.trans drops, Drops.refl S,
      .inr ⟨fetchFailed, { w₁ with pushes := pushes }, w₃, fetches₁, reset, repo⟩⟩
    rw [sends, reset']
    simp only [sent, List.append_assoc, List.nil_append]
  · have last : ∃ result w₅, w₄.SameRepository w₅ ∧ w₅.sent = w₄.sent ∧
        (ProcessQueueOnce io cfg e callback w = finish S' result w₅ ∨
          ∃ changes, ProcessQueueOnce io cfg e callback w = postPush cfg S' result changes w₅) := by
      rcases ends with ⟨-, ends⟩ | ⟨-, _, _, w₅, pushed', result, -, ends⟩
      · exact ⟨none, w₄, ⟨rfl, rfl, rfl, rfl⟩, rfl, .inl ends⟩
      · obtain ⟨pushes', frame⟩ := Push_frame (callback cfg.Branch) maxPushRetries flag w₄
        rw [pushed'] at frame
        subst frame
        exact ⟨result, { w₄ with pushes := pushes' }, ⟨rfl, rfl, rfl, rfl⟩, rfl, .inr ⟨changes, ends⟩⟩
    obtain ⟨result, w₅, repo₅, sent₅, ends⟩ := last
    obtain ⟨sends, repo⟩ := final_send cfg ends
    have repoAll := repo₅.trans repo
    have pass := (applyElements_no_reset io cfg again).2
    obtain ⟨dropped', sent', drops'⟩ := applyLoop_drops io cfg pass
    obtain ⟨_, rfl, passed'⟩ := applyLoop_pass io cfg pass
    obtain ⟨fetched, onTracking, -⟩ := FetchAndReset_ok cfg reset
    obtain ⟨_, _, _, reset', grows₃⟩ := FetchAndReset_frame reset
    obtain ⟨_, _, _, _, frame'⟩ := applyLoop_frame io cfg pass
    have fewer' : w₄.fetches.length < w.fetches.length := by
      have unfetched : w₄.fetches = w₃.fetches := by rw [frame']
      rw [unfetched]
      exact lt_of_lt_of_le fetched fetches₁.length_le
    have start : passStart w (ProcessQueueOnce io cfg e callback w) = w₃.head := by
      rw [passStart, if_neg (by rw [repoAll.fetches]; omega), repoAll.tracking, onTracking, frame']
    have grows : w₁.odb <+: (ProcessQueueOnce io cfg e callback w).odb :=
      (show w₁.odb <+: w₃.odb by rw [reset']; exact grows₃).trans ((applyLoop_odb io cfg pass).trans repoAll.grows)
    refine ⟨before ++ dropped, S, dropped', S', result, ?_, (passesAll _ grows).of_sameRepository io cfg drainRepo,
      drops₀.trans drops, by simpa using drops', .inl ?_⟩
    · simp only [sends, sent₅, sent', reset', sent, List.append_assoc]
    · rw [start]
      exact passed'.of_sameRepository io cfg repoAll

end Once

end Kuberpult
