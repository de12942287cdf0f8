import Kuberpult.Writer.Delivery

/-! `repository.applyElements` over a whole batch. Go writes it as a loop that removes a
failing element in place without advancing its index, and a recursive call that redoes
the batch once after a fetch-and-reset. `applyElementsRec` is that code as written, its
recursion bounded by fuel; two levels always suffice, so it agrees with the unfolded
`applyElements` the writer's proofs use (`applyElementsRec_eq`). A pass is described by
the calls it makes (`Calls`): which elements it keeps, and which change-sets it combines
in order (`applyLoop_calls`). -/
namespace Kuberpult

section Batch

variable (io : Collaborators) (cfg : RepositoryConfig)

/-- Go's `repository.applyElements(elements, allowFetchAndReset)` as the source writes it,
the recursive call `r.applyElements(elements, false)` included. `fuel` bounds the depth of
the recursion; running out of it is `none`. -/
def applyElementsRec : Nat → List Element → Bool → World →
    Option ((List Element × Option Error × TransformerResult) × World)
  | 0, _, _, _ => none
  | fuel + 1, elements, allowFetchAndReset, w =>
    match applyLoop io cfg allowFetchAndReset [] .empty elements w with
    | (.done elements changes, w) => some ((elements, none, changes), w)
    | (.invalid elements _, w) =>
      match FetchAndReset w with
      | (some err, w) => some ((elements, some err, .empty), w)
      | (none, w) => applyElementsRec fuel elements false w

/-- With resets disallowed the code makes no recursive call. -/
theorem applyElementsRec_no_reset (fuel : Nat) (elements : List Element) (w : World) :
    applyElementsRec io cfg (fuel + 1) elements false w = some (applyElements io cfg elements false w) := by
  rcases pass : applyLoop io cfg false [] .empty elements w with ⟨out, w'⟩
  obtain ⟨S, changes, rfl⟩ := applyLoop_done io cfg pass
  simp only [applyElementsRec, applyElements, pass]

/-- The code makes at most one recursive call, so two levels of fuel always suffice, and it
returns what the unfolded `applyElements` returns. -/
theorem applyElementsRec_eq (fuel : Nat) (elements : List Element) (allow : Bool) (w : World) :
    applyElementsRec io cfg (fuel + 2) elements allow w = some (applyElements io cfg elements allow w) := by
  rcases pass : applyLoop io cfg allow [] .empty elements w with ⟨_ | ⟨R, ctx⟩, w₁⟩
  · simp only [applyElementsRec, applyElements, pass]
  · rcases reset : FetchAndReset w₁ with ⟨_ | err, w₂⟩
    · rcases again : applyLoop io cfg false [] .empty R w₂ with ⟨out, w₃⟩
      obtain ⟨S, changes, rfl⟩ := applyLoop_done io cfg again
      simp only [applyElementsRec, applyElements, pass, reset, again]
    · simp only [applyElementsRec, applyElements, pass, reset]

/-! ## The calls of a pass -/

/-- The world after one call of the loop: a failing element gets its error on its result
channel. -/
def afterCall (e : Element) : Except Error TransformerResult → World → World
  | .ok _, w => w
  | .error err, w => w.send e.id (some err)

/-- `Calls w calls w'`: a pass from `w` calls `ApplyTransformers` once for each element of
`calls`, in order, each call returning what `calls` records, and ends in `w'`. -/
def Calls : World → List (Element × Except Error TransformerResult) → World → Prop
  | w, [], w' => w' = w
  | w, (e, r) :: calls, w' =>
    ∃ w₁, ApplyTransformers io cfg e.ctx e.transformers w = (r, w₁) ∧ Calls (afterCall e r w₁) calls w'

/-- The elements whose call succeeded, in order. -/
def succeeded (calls : List (Element × Except Error TransformerResult)) : List Element :=
  calls.filterMap fun call => call.2.toOption.map fun _ => call.1

/-- The change-sets the successful calls returned, in order. -/
def results (calls : List (Element × Except Error TransformerResult)) : List TransformerResult :=
  calls.filterMap fun call => call.2.toOption

@[simp] theorem succeeded_nil : succeeded [] = [] := rfl

@[simp] theorem succeeded_cons_ok (e : Element) (sub : TransformerResult)
    (calls : List (Element × Except Error TransformerResult)) :
    succeeded ((e, .ok sub) :: calls) = e :: succeeded calls := rfl

@[simp] theorem succeeded_cons_error (e : Element) (err : Error)
    (calls : List (Element × Except Error TransformerResult)) :
    succeeded ((e, .error err) :: calls) = succeeded calls := rfl

@[simp] theorem results_nil : results [] = [] := rfl

@[simp] theorem results_cons_ok (e : Element) (sub : TransformerResult)
    (calls : List (Element × Except Error TransformerResult)) :
    results ((e, .ok sub) :: calls) = sub :: results calls := rfl

@[simp] theorem results_cons_error (e : Element) (err : Error)
    (calls : List (Element × Except Error TransformerResult)) :
    results ((e, .error err) :: calls) = results calls := rfl

section Pass

variable {allow : Bool} {kept : List Element} {changes : TransformerResult} {w w' : World}

/-- A pass that goes through its elements calls `ApplyTransformers` once for each, keeps
those whose call succeeded, and appends the changed and deleted applications of their
change-sets, in order, to those it started with. -/
theorem applyLoop_calls {rest S : List Element} {changes' : TransformerResult}
    (run : applyLoop io cfg allow kept changes rest w = (.done S changes', w')) :
    ∃ calls, calls.map Prod.fst = rest ∧ Calls io cfg w calls w' ∧ S = kept ++ succeeded calls ∧
      changes'.ChangedApps = changes.ChangedApps ++ (results calls).flatMap TransformerResult.ChangedApps ∧
      changes'.DeletedRootApps =
        changes.DeletedRootApps ++ (results calls).flatMap TransformerResult.DeletedRootApps := by
  induction rest generalizing kept changes w with
  | nil =>
    simp only [applyLoop, Prod.mk.injEq, PassOutcome.done.injEq] at run
    obtain ⟨⟨rfl, rfl⟩, rfl⟩ := run
    exact ⟨[], rfl, rfl, by simp, by simp, by simp⟩
  | cons e rest ih =>
    rcases applyLoop_cons io cfg run with ⟨sub, w₁, applied, continued⟩ | ⟨_, _, -, -, stopped, -⟩ |
      ⟨err, w₁, applied, -, continued⟩
    · obtain ⟨calls, elements, trace, rfl, changed, deleted⟩ := ih continued
      exact ⟨(e, .ok sub) :: calls, by simp [elements], ⟨w₁, applied, trace⟩, by simp,
        by simp [changed], by simp [deleted]⟩
    · cases stopped
    · obtain ⟨calls, elements, trace, rfl, changed, deleted⟩ := ih continued
      exact ⟨(e, .error err) :: calls, by simp [elements], ⟨w₁, applied, trace⟩, by simp, by simp [changed],
        by simp [deleted]⟩

/-- A pass stops early only when resets are allowed. -/
theorem applyLoop_invalid_allowed {rest R : List Element} {ctx : Context}
    (run : applyLoop io cfg allow kept changes rest w = (.invalid R ctx, w')) : allow = true := by
  cases allow
  · obtain ⟨_, _, stopped⟩ := applyLoop_done io cfg run
    cases stopped
  · rfl

end Pass

/-! ## A whole batch -/

/-- What `applyElements` does with a batch, for every batch and every answer of
`ApplyTransformers` and of the fetch tape. The code as written returns after at most one
recursive call, none with resets disallowed, and reads at most one answer of the fetch
tape, none with resets disallowed. What it returns keeps the input's elements in order and
leaves out exactly those it sent a value to, each of which got exactly one error. When it
returns no error, its last pass called `ApplyTransformers` for elements of the batch in
order; it returns those whose call succeeded, with their changed and deleted applications
concatenated in order. -/
theorem applyElements_returns_successes {elements S : List Element} {allow : Bool} {w w' : World}
    {err : Option Error} {changes : TransformerResult}
    (run : applyElements io cfg elements allow w = ((S, err, changes), w')) :
    (∀ fuel, applyElementsRec io cfg (fuel + 2) elements allow w = some ((S, err, changes), w')) ∧
    (allow = false → ∀ fuel, applyElementsRec io cfg (fuel + 1) elements allow w = some ((S, err, changes), w')) ∧
    (w'.fetches = w.fetches ∨ allow = true ∧ w'.fetches = w.fetches.tail) ∧
    (∃ sends, w'.sent = w.sent ++ sends ∧ Drops sends S elements) ∧
    (err = none → ∃ w₀ calls, Calls io cfg w₀ calls w' ∧ (calls.map Prod.fst).Sublist elements ∧
      S = succeeded calls ∧ changes.ChangedApps = (results calls).flatMap TransformerResult.ChangedApps ∧
      changes.DeletedRootApps = (results calls).flatMap TransformerResult.DeletedRootApps) := by
  refine ⟨fun fuel => run ▸ applyElementsRec_eq io cfg fuel elements allow w,
    fun disallowed fuel => by subst disallowed; rw [← run]; exact applyElementsRec_no_reset io cfg fuel elements w,
    ?_, ?_, ?_⟩
  · rcases applyElements_cases io cfg run with ⟨-, pass⟩ | ⟨ctx, w₁, pass, -, reset⟩ |
      ⟨R, ctx, w₁, w₂, pass, reset, -, again⟩
    · obtain ⟨_, _, _, _, rfl⟩ := applyLoop_frame io cfg pass
      exact .inl rfl
    · obtain ⟨_, _, _, _, rfl⟩ := applyLoop_frame io cfg pass
      obtain ⟨_, _, _, rfl, -⟩ := FetchAndReset_frame reset
      exact .inr ⟨applyLoop_invalid_allowed io cfg pass, rfl⟩
    · obtain ⟨_, _, _, _, rfl⟩ := applyLoop_frame io cfg pass
      obtain ⟨_, _, _, rfl, -⟩ := FetchAndReset_frame reset
      obtain ⟨_, _, _, _, rfl⟩ := applyLoop_frame io cfg again
      exact .inr ⟨applyLoop_invalid_allowed io cfg pass, rfl⟩
  · obtain ⟨before, R, dropped, sent, -, outer, inner, -⟩ := applyElements_spec io cfg run
    exact ⟨before ++ dropped, by rw [sent, List.append_assoc], outer.trans inner⟩
  · intro noError
    rcases applyElements_cases io cfg run with ⟨-, pass⟩ | ⟨ctx, w₁, pass, failed, -⟩ |
      ⟨R, ctx, w₁, w₂, pass, -, -, again⟩
    · obtain ⟨calls, elements, trace, rfl, changed, deleted⟩ := applyLoop_calls io cfg pass
      exact ⟨w, calls, trace, elements ▸ List.Sublist.refl _, by simp, by simpa using changed,
        by simpa using deleted⟩
    · simp [noError] at failed
    · obtain ⟨calls, elements, trace, rfl, changed, deleted⟩ := applyLoop_calls io cfg again
      obtain ⟨_, -, drops⟩ := applyLoop_drops io cfg pass
      exact ⟨w₂, calls, trace, elements ▸ by simpa using drops.sublist, by simp, by simpa using changed,
        by simpa using deleted⟩

end Batch

/-- A request of the sample user whose transformer fails. -/
def failingElement (id : Nat) : Element :=
  ⟨id, sampleContext, [⟨fun _ _ => .error (.text "no such application")⟩]⟩

/-- A batch whose middle request fails: the other two are kept, in order, with their
changed applications in order, and the failing one gets its error. -/
theorem middle_request_dropped :
    let elements := [sampleElement 1 "one", failingElement 2, sampleElement 3 "three"]
    let w := sampleWorld [] []
    let run := applyElements sampleCollaborators sampleConfig elements true w
    run.1.1.map Element.id = [1, 3] ∧ run.2.sent = [(2, some (.text "no such application"))] ∧
    run.1.2.2.ChangedApps = [⟨"one", "production"⟩, ⟨"three", "production"⟩] ∧
    (∀ fuel, applyElementsRec sampleCollaborators sampleConfig (fuel + 2) elements true w =
      some ((run.1.1, run.1.2.1, run.1.2.2), run.2)) ∧
    (true = false → ∀ fuel, applyElementsRec sampleCollaborators sampleConfig (fuel + 1) elements true w =
      some ((run.1.1, run.1.2.1, run.1.2.2), run.2)) ∧
    (run.2.fetches = w.fetches ∨ true = true ∧ run.2.fetches = w.fetches.tail) ∧
    (∃ sends, run.2.sent = w.sent ++ sends ∧ Drops sends run.1.1 elements) ∧
    (run.1.2.1 = none → ∃ w₀ calls, Calls sampleCollaborators sampleConfig w₀ calls run.2 ∧
      (calls.map Prod.fst).Sublist elements ∧ run.1.1 = succeeded calls ∧
      run.1.2.2.ChangedApps = (results calls).flatMap TransformerResult.ChangedApps ∧
      run.1.2.2.DeletedRootApps = (results calls).flatMap TransformerResult.DeletedRootApps) :=
  ⟨by decide, by decide, by decide, applyElements_returns_successes _ _ rfl⟩

end Kuberpult
