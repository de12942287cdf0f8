import Kuberpult.Writer.Delivery

/-! The commits a call leaves on the local branch. The survivors of its last pass each
have one commit there, in order, on top of the head that pass started from: when the call
reports `nil` to them (`ProcessQueueOnce_nil_commits`), and just as well when it reports a
push error, since nothing rolls the branch back (`ProcessQueueOnce_keeps_commits`). A call
that reports `nil` to no element may still have moved the branch
(`refused_push_moves_head`), and the next call then builds on its commits and may push
them (`failed_push_commit_published`). -/
namespace Kuberpult

section History

variable (io : Collaborators) (cfg : RepositoryConfig)

/-- The elements a call reports `nil` to were taken off the queue in the order it reports
to them, and the branch after the call is reached from the head its last pass started
from by one commit per element, each made by `ElementCommit` from that element's
transformers on the state at the commit before. -/
theorem ProcessQueueOnce_nil_commits (e : Element) (callback : PushUpdateFunc) (w : World) :
    let w' := ProcessQueueOnce io cfg e callback w
    ∃ S : List Element, reportedNil w w' = S.map Element.id ∧ S.Sublist (e :: w.queue) ∧
      (S ≠ [] → Chain io cfg w' (passStart w w') S w'.head) := by
  intro w'
  cases live : e.ctx.Err with
  | some err =>
    refine ⟨[], ?_, List.nil_sublist _, fun nonempty => absurd rfl nonempty⟩
    simp [w', reportedNil, ProcessQueueOnce_of_cancelled io cfg callback w live]
  | none =>
    obtain ⟨before, R, dropped, S, result, sent, -, outer, inner, final⟩ :=
      ProcessQueueOnce_final io cfg callback w live rfl
    have drops := ((drainQueue_drops w.queue).cons e).trans (outer.trans inner)
    have nils := reportedNil_of_drops (show w'.sent = w.sent ++ (cancelledSends w.queue ++ (before ++ dropped)) ++
      S.map fun el => (el.id, result) by simp only [w', sent, List.append_assoc]) drops
    cases result with
    | none =>
      refine ⟨S, by simpa [List.filter_map, Function.comp_def] using nils, drops.sublist, fun _ => ?_⟩
      rcases final with pass | ⟨failed, -⟩
      · exact pass.chain io cfg
      · cases failed
    | some err =>
      exact ⟨[], by simpa [List.filter_map, Function.comp_def] using nils, List.nil_sublist _,
        fun nonempty => absurd rfl nonempty⟩

/-- A call whose push is refused reports `nil` to no element, yet leaves the branch one
commit above the head its pass started from. -/
theorem refused_push_moves_head :
    reportedNil (sampleWorld [refusedPush] []) refusedCall = [] ∧
      passStart (sampleWorld [refusedPush] []) refusedCall = none ∧ refusedCall.head = some ⟨0⟩ := by
  rw [refusedCall_eq]
  decide

end History

end Kuberpult
