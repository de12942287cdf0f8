import Kuberpult.Writer.ProcessQueue

/-! The writer's two retry loops, in closed form over the answers they read. `Push`, the
back-off around the push action, calls it again only after an error that is neither a
non-fast-forward rejection nor past the back-off's time budget, at most
`maxPushRetries + 1` times, and the flag it returns is the callback's fold over the
reports of every call (`Push_eq`). The webhook of `sendWebhookToArgoCd` is posted again
only after a server error, at most `maxArgoRequests` times, unless the URL does not parse:
then the first request panics before anything is sent (`webhookTries_eq`). -/
namespace Kuberpult

/-- What the push tape answers once it ran out. -/
def noPushAnswer : PushAttempt := ⟨[], some (.io "push: no answer"), true⟩

/-- Whether `backoff.Retry` calls the push action again after this call: an error that is
not permanent, with time left in the back-off's budget. -/
def PushAttempt.retried (attempt : PushAttempt) : Bool :=
  match attempt.error with
  | some err => !err.IsNonFastForward && !attempt.stop
  | none => false

/-- Whether `sendWebhookToArgoCd` posts again after this answer: a server error. -/
def serverError (answer : Option Nat) : Bool := answer.any fun status => decide (500 ≤ status)

/-- The calls a retry loop makes with `tries` calls allowed, when the first `retries`
answers ask for another call: one more than those, at most `tries`. -/
def callsMade (tries retries : Nat) : Nat := min tries (retries + 1)

theorem callsMade_succ_succ (tries retries : Nat) : callsMade (tries + 1) (retries + 1) = callsMade tries retries + 1 := by
  unfold callsMade
  omega

theorem callsMade_pos (tries retries : Nat) : ∃ j, callsMade (tries + 1) retries = j + 1 :=
  ⟨callsMade (tries + 1) retries - 1, by unfold callsMade; omega⟩

section Push

variable (callback : String × String → Bool → Bool) {retries : Nat} {flag : Bool} {w : World}

/-- The flag after the callback saw one call's reports. -/
def PushAttempt.report (attempt : PushAttempt) (flag : Bool) : Bool :=
  attempt.updates.foldl (fun flag update => callback update flag) flag

@[simp] theorem PushAttempt.report_noPushAnswer (flag : Bool) : noPushAnswer.report callback flag = flag := rfl

/-- A call that asks for no retry, or the last one allowed, ends the loop with its error. -/
theorem Push_stops (stops : (w.pushes.headD noPushAnswer).retried = false ∨ retries = 0) :
    Push callback retries flag w =
      ((w.pushes.headD noPushAnswer).error, (w.pushes.headD noPushAnswer).report callback flag,
        { w with pushes := w.pushes.tail }) := by
  rw [Push]
  simp only [World.nextPush, PushAttempt.report]
  unfold noPushAnswer at *
  generalize w.pushes.headD _ = attempt at stops ⊢
  obtain ⟨updates, error, stop⟩ := attempt
  cases error with
  | none => rfl
  | some err =>
    by_cases nff : err.IsNonFastForward = true
    · simp [nff]
    · cases retries with
      | zero => simp [nff]
      | succ retries =>
        have stopped : stop = true := by simpa [PushAttempt.retried, nff] using stops
        simp [nff, stopped]

/-- A call that asks for a retry, with a retry left, leads to the next call. -/
theorem Push_retries (retried : (w.pushes.headD noPushAnswer).retried = true) :
    Push callback (retries + 1) flag w =
      Push callback retries ((w.pushes.headD noPushAnswer).report callback flag) { w with pushes := w.pushes.tail } := by
  rw [Push]
  simp only [World.nextPush, PushAttempt.report]
  unfold noPushAnswer at *
  generalize w.pushes.headD _ = attempt at retried ⊢
  obtain ⟨updates, error, stop⟩ := attempt
  cases error with
  | none => cases retried
  | some err =>
    have : err.IsNonFastForward = false ∧ stop = false := by simpa [PushAttempt.retried] using retried
    simp [this]

/-- **The push's back-off, in closed form.** With `retries` retries, `Push` makes `k`
calls: one more than the calls that ask for a retry before the first that does not, and
at most `retries + 1`. It returns the `k`-th call's error and the flag the callback makes
of the reports of all `k` calls in order; it reads `k` answers of the push tape and
changes nothing else. -/
theorem Push_eq (retries : Nat) (flag : Bool) (w : World) :
    Push callback retries flag w =
      let k := callsMade (retries + 1) (w.pushes.takeWhile PushAttempt.retried).length
      ((w.pushes.getD (k - 1) noPushAnswer).error,
        (w.pushes.take k).foldl (fun flag attempt => attempt.report callback flag) flag,
        { w with pushes := w.pushes.drop k }) := by
  induction retries generalizing flag w with
  | zero =>
    rw [Push_stops callback (.inr rfl)]
    cases answers : w.pushes <;> simp [callsMade, answers]
  | succ retries ih =>
    cases answers : w.pushes with
    | nil =>
      rw [Push_stops callback (.inl (by simp [answers]; rfl))]
      simp [answers, callsMade]
    | cons attempt rest =>
      cases retried : attempt.retried
      · rw [Push_stops callback (.inl (by simp [answers, retried]))]
        simp [answers, retried, List.takeWhile_cons, callsMade]
      · rw [Push_retries callback (by simp [answers, retried]), ih]
        obtain ⟨j, calls⟩ := callsMade_pos retries (rest.takeWhile PushAttempt.retried).length
        simp [answers, retried, List.takeWhile_cons, callsMade_succ_succ, calls]

end Push

/-- **The webhook's retries, in closed form.** With `tries` requests allowed,
`sendWebhookToArgoCd` posts the payload `k` times: one more than the server errors Argo CD
answers before its first other answer or an unreachable server, and at most `tries`. It
reads `k` answers and changes nothing else. -/
theorem webhookAttempts_eq (data : ArgoWebhookData) (tries : Nat) (w : World) :
    webhookAttempts data tries w =
      let k := callsMade tries (w.argoAnswers.takeWhile serverError).length
      { w with webhooks := w.webhooks ++ List.replicate k data, argoAnswers := w.argoAnswers.drop k } := by
  induction tries generalizing w with
  | zero => simp [webhookAttempts, callsMade]
  | succ tries ih =>
    cases answers : w.argoAnswers with
    | nil => simp [webhookAttempts, World.nextArgoAnswer, answers, callsMade]
    | cons answer rest =>
      cases retried : serverError answer
      · have stops : answer = none ∨ ∃ status, answer = some status ∧ status < 500 := by
          cases answer <;> simp_all [serverError]
        obtain rfl | ⟨status, rfl, below⟩ := stops
        · simp [webhookAttempts, World.nextArgoAnswer, answers, retried, callsMade]
        · simp [webhookAttempts, World.nextArgoAnswer, answers, retried, callsMade, Nat.not_le.2 below]
      · obtain ⟨status, rfl, above⟩ : ∃ status, answer = some status ∧ 500 ≤ status := by
          cases answer <;> simp_all [serverError]
        simp [webhookAttempts, World.nextArgoAnswer, answers, retried, above, ih, callsMade_succ_succ,
          List.replicate_succ]

/-- With a URL that parses, the loop is the one `postPush` runs. -/
theorem webhookTries_of_parses (cfg : RepositoryConfig) {urlParses : String → Bool}
    (parses : urlParses (cfg.ArgoWebhookUrl ++ "/api/webhook") = true) (data : ArgoWebhookData) (tries : Nat)
    (w : World) : webhookTries cfg urlParses data tries w = some (webhookAttempts data tries w) := by
  induction tries generalizing w with
  | zero => rfl
  | succ tries ih =>
    simp only [webhookTries, webhookAttempts, doWebhookPostRequest, parses, if_true]
    split <;> simp_all [apply_ite]

/-- **The webhook's retries, panic included.** With `tries` requests allowed, the loop of
`sendWebhookToArgoCd` posts the payload `k` times, `k` as in `webhookAttempts_eq`, and
changes nothing but the payloads sent and the `k` answers read; but when Go's parser
rejects the URL, the first request panics with nothing sent. -/
theorem webhookTries_eq (cfg : RepositoryConfig) (urlParses : String → Bool) (data : ArgoWebhookData)
    (tries : Nat) (w : World) :
    webhookTries cfg urlParses data tries w =
      if tries = 0 ∨ urlParses (cfg.ArgoWebhookUrl ++ "/api/webhook") = true then
        let k := callsMade tries (w.argoAnswers.takeWhile serverError).length
        some { w with webhooks := w.webhooks ++ List.replicate k data, argoAnswers := w.argoAnswers.drop k }
      else none := by
  by_cases parses : urlParses (cfg.ArgoWebhookUrl ++ "/api/webhook") = true
  · rw [if_pos (.inr parses), webhookTries_of_parses cfg parses, webhookAttempts_eq]
  · cases tries with
    | zero => simp [webhookTries, callsMade]
    | succ tries => simp [webhookTries, doWebhookPostRequest, parses]

end Kuberpult
