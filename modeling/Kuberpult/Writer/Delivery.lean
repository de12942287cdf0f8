import Kuberpult.Writer.Once

/-! Which values the writer puts on the result channels. A call whose first element is
live sends each element it takes off the queue exactly one value
(`ProcessQueueOnce_sends_once`). A call whose first element is already cancelled sends it
two: its context's error, and then the panic error of the deferred send, which the early
`return` does not skip (`ProcessQueueOnce_cancelled_sends_twice`). -/
namespace Kuberpult

/-- The elements a step of the writer from `w` to `w'` sent `nil`, in the order it sent
them. -/
def reportedNil (w w' : World) : List Nat :=
  ((w'.sent.drop w.sent.length).filter fun x => x.2.isNone).map Prod.fst

/-- Only the values sent after the errors of a step count as its `nil`s. -/
theorem reportedNil_of_drops {w w' : World} {dropped rest : List (Nat × Option Error)} {kept all : List Element}
    (sent : w'.sent = w.sent ++ dropped ++ rest) (drops : Drops dropped kept all) :
    reportedNil w w' = (rest.filter fun x => x.2.isNone).map Prod.fst := by
  have none : dropped.filter (fun x => x.2.isNone) = [] :=
    List.filter_eq_nil_iff.2 fun x sent => by simpa [Option.isNone_iff_eq_none, Option.isSome_iff_ne_none] using drops.errors x sent
  simp [reportedNil, sent, List.drop_append_eq_append_drop, none]

section Delivery

variable (io : Collaborators) (cfg : RepositoryConfig)

/-- A call whose first element is cancelled only sends values to it. -/
theorem ProcessQueueOnce_of_cancelled {e : Element} {err : Error} (callback : PushUpdateFunc) (w : World)
    (cancelled : e.ctx.Err = some err) :
    ProcessQueueOnce io cfg e callback w =
      { w with sent := w.sent ++ [(e.id, some err), (e.id, some (.text "Panic"))] } := by
  simp [ProcessQueueOnce, cancelled, finish_eq, World.send]

/-- A call whose first element is already cancelled sends that element two values: its
context's error, then the panic error of the deferred send. -/
theorem ProcessQueueOnce_cancelled_sends_twice {e : Element} {err : Error} (callback : PushUpdateFunc)
    (w : World) (cancelled : e.ctx.Err = some err) :
    (ProcessQueueOnce io cfg e callback w).sent = w.sent ++ [(e.id, some err), (e.id, some (.text "Panic"))] := by
  rw [ProcessQueueOnce_of_cancelled io cfg callback w cancelled]

/-- The request of `sampleElement 1`, cancelled before the writer takes it. -/
theorem cancelled_request_sends_twice :
    ({ sampleElement 1 "app" with ctx := { sampleContext with Err := some .canceled } } : Element).ctx.Err =
      some .canceled ∧
    (ProcessQueueOnce sampleCollaborators sampleConfig
        { sampleElement 1 "app" with ctx := { sampleContext with Err := some .canceled } } defaultPushUpdate
        (sampleWorld [acceptedPush] [])).sent = [(1, some .canceled), (1, some (.text "Panic"))] :=
  ⟨rfl, ProcessQueueOnce_cancelled_sends_twice _ _ _ _ rfl⟩

/-- A call whose first element is live sends each element it takes off the queue, the
first one and every one drained, exactly one value. -/
theorem ProcessQueueOnce_sends_once {e : Element} (callback : PushUpdateFunc) (w : World)
    (live : e.ctx.Err = none) :
    ∃ sends, (ProcessQueueOnce io cfg e callback w).sent = w.sent ++ sends ∧
      (sends.map Prod.fst).Perm ((e :: w.queue).map Element.id) := by
  obtain ⟨before, R, dropped, S, result, sent, -, outer, inner, -⟩ := ProcessQueueOnce_final io cfg callback w live rfl
  refine ⟨cancelledSends w.queue ++ before ++ dropped ++ S.map fun el => (el.id, result),
    by simp only [sent, List.append_assoc], ?_⟩
  simpa [List.map_append, Function.comp_def, List.append_assoc] using
    (((drainQueue_drops w.queue).cons e).trans (outer.trans inner)).perm

end Delivery

end Kuberpult
