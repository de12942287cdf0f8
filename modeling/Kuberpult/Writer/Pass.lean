import Kuberpult.Writer.ProcessQueue

/-! What the writer's steps do to the world, each said once: the fields a step may change
(`_frame`), what it puts on the result channels (`_sent`), and for a pass of
`applyElements` the commits it adds (`applyLoop_chain`). The results about whole calls
of `ProcessQueueOnce` are assembled from these and never unfold a step again. -/
namespace Kuberpult

/-- The elements a pass ends with. -/
def PassOutcome.elements : PassOutcome → List Element
  | .done elements _ => elements
  | .invalid elements _ => elements

@[simp] theorem PassOutcome.elements_done (elements : List Element) (changes : TransformerResult) :
    (PassOutcome.done elements changes).elements = elements := rfl

@[simp] theorem PassOutcome.elements_invalid (elements : List Element) (ctx : Context) :
    (PassOutcome.invalid elements ctx).elements = elements := rfl

/-- A commit stored in the object database stays there as it grows. -/
theorem World.lookup_of_grows {w w' : World} (grows : w.odb <+: w'.odb) {oid : Oid} {c : Commit}
    (found : w.lookup oid = some c) : w'.lookup oid = some c := by
  obtain ⟨more, grown⟩ := grows
  unfold World.lookup at *
  rw [← grown, List.getElem?_append_left (List.getElem?_eq_some_iff.1 found).1, found]

/-- Two worlds with the same repository: object database, references and fetch tape. -/
structure World.SameRepository (w w' : World) : Prop where
  odb : w'.odb = w.odb
  head : w'.head = w.head
  tracking : w'.tracking = w.tracking
  fetches : w'.fetches = w.fetches

theorem World.SameRepository.trans {w₁ w₂ w₃ : World} (first : w₁.SameRepository w₂)
    (second : w₂.SameRepository w₃) : w₁.SameRepository w₃ :=
  ⟨second.odb.trans first.odb, second.head.trans first.head, second.tracking.trans first.tracking,
    second.fetches.trans first.fetches⟩

theorem World.SameRepository.grows {w w' : World} (same : w.SameRepository w') : w.odb <+: w'.odb :=
  same.odb ▸ List.prefix_refl _

/-- `Drops sends kept all`: the values in `sends` are errors, one for each element of `all`
that `kept` leaves out, and `kept` keeps the other elements of `all` in order. -/
structure Drops (sends : List (Nat × Option Error)) (kept all : List Element) : Prop where
  errors : ∀ x ∈ sends, x.2.isSome
  perm : (sends.map Prod.fst ++ kept.map Element.id).Perm (all.map Element.id)
  sublist : kept.Sublist all

theorem Drops.refl (all : List Element) : Drops [] all all :=
  ⟨by simp, by simp, List.Sublist.refl _⟩

/-- Dropping in two rounds is dropping what either round dropped. -/
theorem Drops.trans {first second : List (Nat × Option Error)} {S R all : List Element}
    (outer : Drops first R all) (inner : Drops second S R) : Drops (first ++ second) S all where
  errors x sent := (List.mem_append.1 sent).elim (outer.errors x) (inner.errors x)
  perm := by
    rw [List.map_append, List.append_assoc]
    exact ((List.perm_append_left_iff _).2 inner.perm).trans outer.perm
  sublist := inner.sublist.trans outer.sublist

/-- One more element dropped with an error. -/
theorem Drops.insert {sends : List (Nat × Option Error)} {kept post : List Element} (pre : List Element)
    (e : Element) (err : Option Error) (drops : Drops sends kept (pre ++ post)) (failed : err.isSome) :
    Drops ((e.id, err) :: sends) kept (pre ++ e :: post) where
  errors := by simpa only [List.mem_cons, forall_eq_or_imp] using ⟨failed, drops.errors⟩
  perm := by
    rw [List.map_cons, List.cons_append]
    refine (drops.perm.cons e.id).trans ?_
    simp only [List.map_append, List.map_cons]
    exact List.perm_middle.symm
  sublist := drops.sublist.trans ((List.sublist_cons_self e post).append_left pre)

/-- The same element first in the batch and in what it keeps. -/
theorem Drops.cons {sends : List (Nat × Option Error)} {kept all : List Element} (e : Element)
    (drops : Drops sends kept all) : Drops sends (e :: kept) (e :: all) where
  errors := drops.errors
  perm := by simpa using List.perm_middle.trans (drops.perm.cons e.id)
  sublist := drops.sublist.cons_cons e

section Steps

variable (io : Collaborators) (cfg : RepositoryConfig)

/-- The state at the branch opens the same way once the object database has grown. -/
theorem StateAt_of_grows {w w' : World} {state : State} (opened : StateAt cfg w = .ok state)
    (grows : w.odb <+: w'.odb) : StateAt cfg { w' with head := w.head } = .ok state := by
  unfold StateAt at *
  cases head : w.head with
  | none => simpa only [head] using opened
  | some oid =>
    simp only [head] at opened ⊢
    split at opened
    · rename_i c found
      have moved : ({ w' with head := some oid } : World).lookup oid = some c := World.lookup_of_grows grows found
      rw [moved]
      exact opened
    · cases opened

/-- At a branch that holds a stored commit, the state is that commit's tree. -/
theorem StateAt_of_lookup {w : World} {oid : Oid} {c : Commit} (found : w.lookup oid = some c) :
    StateAt cfg { w with head := some oid } = .ok ⟨c.tree, some oid, cfg.BootstrapMode, cfg.EnvironmentConfigsPath⟩ := by
  simp only [StateAt, World.lookup] at found ⊢
  rw [found]

/-- The state at the branch depends on the branch and the object database only. -/
theorem StateAt_congr {w w' : World} (odb : w'.odb = w.odb) (head : w'.head = w.head) :
    StateAt cfg w' = StateAt cfg w := by
  unfold StateAt World.lookup
  rw [odb, head]

/-- `MadeOn w start e c`: `c` is the commit `ElementCommit` makes from the element's
transformers on the state at `start`. -/
def MadeOn (w : World) (start : Option Oid) (e : Element) (c : Commit) : Prop :=
  ∃ state, StateAt cfg { w with head := start } = .ok state ∧
    ∃ now committed authored changes,
      ElementCommit io cfg e.ctx e.transformers state now committed authored = .ok (c, changes)

/-- `FailsOn w start e`: the element's transformers fail on the state at `start`. -/
def FailsOn (w : World) (start : Option Oid) (e : Element) : Prop :=
  ∀ state, StateAt cfg { w with head := start } = .ok state →
    ∃ now committed authored err, ElementCommit io cfg e.ctx e.transformers state now committed authored = .error err

/-- `Chain w start es stop`: the commits from `start` to `stop` are one commit for each
element of `es`, in order, each stored in `w`, on top of the one before it, and made by
`ElementCommit` from the element's transformers on the state at its parent. -/
def Chain (w : World) : Option Oid → List Element → Option Oid → Prop
  | start, [], stop => stop = start
  | start, e :: es, stop => ∃ oid c, w.lookup oid = some c ∧ MadeOn io cfg w start e c ∧ Chain w (some oid) es stop

/-- `Pass w start R S stop`: going through `R` from the branch at `start`, each element in
turn either failed on the state at the branch and was dropped, or added the commit
`ElementCommit` makes on it; `S` are the elements kept, and the branch ends at `stop`. -/
def Pass (w : World) : Option Oid → List Element → List Element → Option Oid → Prop
  | start, [], S, stop => S = [] ∧ stop = start
  | start, e :: R, S, stop =>
    (FailsOn io cfg w start e ∧ Pass w start R S stop) ∨
    ∃ oid c S', S = e :: S' ∧ w.lookup oid = some c ∧ MadeOn io cfg w start e c ∧ Pass w (some oid) R S' stop

/-- The commits a pass adds are a chain over the elements it kept. -/
theorem Pass.chain {w : World} {start stop : Option Oid} {R S : List Element}
    (pass : Pass io cfg w start R S stop) : Chain io cfg w start S stop := by
  induction R generalizing start S with
  | nil => obtain ⟨rfl, rfl⟩ := pass; rfl
  | cons e R ih =>
    rcases pass with ⟨-, rest⟩ | ⟨oid, c, S', rfl, found, made, rest⟩
    · exact ih rest
    · exact ⟨oid, c, found, made, ih rest⟩

theorem MadeOn.of_grows {w w' : World} (grows : w.odb <+: w'.odb) {start : Option Oid} {e : Element}
    {c : Commit} (made : MadeOn io cfg w start e c) : MadeOn io cfg w' start e c := by
  obtain ⟨state, opened, rest⟩ := made
  exact ⟨state, StateAt_of_grows cfg opened grows, rest⟩

/-- A chain stays one as the object database grows. -/
theorem Chain.of_grows {w w' : World} (grows : w.odb <+: w'.odb) {start stop : Option Oid}
    {es : List Element} (chain : Chain io cfg w start es stop) : Chain io cfg w' start es stop := by
  induction es generalizing start with
  | nil => exact chain
  | cons e es ih =>
    obtain ⟨oid, c, found, made, rest⟩ := chain
    exact ⟨oid, c, World.lookup_of_grows grows found, made.of_grows io cfg grows, ih rest⟩

/-- A pass is one in every world with the same object database. -/
theorem Pass.of_odb {w w' : World} (same : w'.odb = w.odb) {start stop : Option Oid} {R S : List Element}
    (pass : Pass io cfg w start R S stop) : Pass io cfg w' start R S stop := by
  have opens : ∀ start, StateAt cfg { w' with head := start } = StateAt cfg { w with head := start } :=
    fun _ => StateAt_congr cfg same rfl
  induction R generalizing start S with
  | nil => exact pass
  | cons e R ih =>
    rcases pass with ⟨fails, rest⟩ | ⟨oid, c, S', rfl, found, made, rest⟩
    · exact .inl ⟨fun state opened => fails state ((opens start).symm.trans opened), ih rest⟩
    · refine .inr ⟨oid, c, S', rfl, ?_, made.of_grows io cfg (same ▸ List.prefix_refl _), ih rest⟩
      simpa only [World.lookup, same] using found

/-- A pass from a branch whose state opens stays one as the object database grows: every
branch it passes holds a commit, which stays the same. -/
theorem Pass.of_grows {w w' : World} (grows : w.odb <+: w'.odb) {start stop : Option Oid} {R S : List Element}
    {state : State} (opened : StateAt cfg { w with head := start } = .ok state) (pass : Pass io cfg w start R S stop) :
    Pass io cfg w' start R S stop := by
  induction R generalizing start S state with
  | nil => exact pass
  | cons e R ih =>
    rcases pass with ⟨fails, rest⟩ | ⟨oid, c, S', rfl, found, made, rest⟩
    · refine .inl ⟨fun state' opened' => ?_, ih opened rest⟩
      rw [(StateAt_of_grows cfg opened grows : StateAt cfg { w' with head := start } = .ok state)] at opened'
      cases opened'
      exact fails state opened
    · exact .inr ⟨oid, c, S', rfl, World.lookup_of_grows grows found, made.of_grows io cfg grows,
        ih (StateAt_of_lookup cfg found) rest⟩

theorem Chain.of_sameRepository {w w' : World} (same : w.SameRepository w') {start : Option Oid}
    {es : List Element} (chain : Chain io cfg w start es w.head) : Chain io cfg w' start es w'.head := by
  rw [same.head]
  exact chain.of_grows io cfg (same.odb ▸ List.prefix_refl _)

theorem Pass.of_sameRepository {w w' : World} (same : w.SameRepository w') {start : Option Oid}
    {R S : List Element} (pass : Pass io cfg w start R S w.head) : Pass io cfg w' start R S w'.head := by
  rw [same.head]
  exact pass.of_odb io cfg same.odb

/-! ## A pass of `applyElements` -/

/-- Everything one iteration of a pass can do: keep the element after a successful
application, stop at an `invalidJson` failure when a reset is allowed, or drop the element
with its error. -/
theorem applyLoop_cons {allow : Bool} {kept : List Element} {changes : TransformerResult}
    {e : Element} {rest : List Element} {w w' : World} {out : PassOutcome}
    (run : applyLoop io cfg allow kept changes (e :: rest) w = (out, w')) :
    (∃ sub w₁, ApplyTransformers io cfg e.ctx e.transformers w = (.ok sub, w₁) ∧
      applyLoop io cfg allow (kept ++ [e]) (changes.Combine (some sub)) rest w₁ = (out, w')) ∨
    (∃ err w₁, ApplyTransformers io cfg e.ctx e.transformers w = (.error err, w₁) ∧
      (err.Is .invalidJson && allow) = true ∧ out = .invalid (kept ++ e :: rest) e.ctx ∧ w' = w₁) ∨
    (∃ err w₁, ApplyTransformers io cfg e.ctx e.transformers w = (.error err, w₁) ∧
      (err.Is .invalidJson && allow) = false ∧
      applyLoop io cfg allow kept changes rest (w₁.send e.id (some err)) = (out, w')) := by
  rcases applied : ApplyTransformers io cfg e.ctx e.transformers w with ⟨_ | sub, w₁⟩
  · rename_i err
    simp only [applyLoop, applied] at run
    split at run
    · rename_i invalid
      simp only [Prod.mk.injEq] at run
      exact .inr (.inl ⟨err, w₁, rfl, invalid, run.1.symm, run.2.symm⟩)
    · rename_i other
      exact .inr (.inr ⟨err, w₁, rfl, Bool.eq_false_iff.2 other, run⟩)
  · simp only [applyLoop, applied] at run
    exact .inl ⟨sub, w₁, rfl, run⟩

section Pass

variable {allow : Bool} {kept : List Element} {changes : TransformerResult} {w w' : World}
  {out : PassOutcome}

/-- A pass changes nothing but the clock, the object database, the branch and the result
channels. -/
theorem applyLoop_frame {rest : List Element} (run : applyLoop io cfg allow kept changes rest w = (out, w')) :
    ∃ clock odb head sent, w' = { w with clock := clock, odb := odb, head := head, sent := sent } := by
  induction rest generalizing kept changes w with
  | nil =>
    simp only [applyLoop, Prod.mk.injEq] at run
    exact ⟨w.clock, w.odb, w.head, w.sent, run.2.symm⟩
  | cons e rest ih =>
    rcases applyLoop_cons io cfg run with ⟨sub, w₁, applied, continued⟩ | ⟨err, w₁, applied, -, -, rfl⟩ |
      ⟨err, w₁, applied, -, continued⟩
    · obtain ⟨_, _, _, -, -, -, rfl⟩ := ApplyTransformers_ok io cfg applied
      obtain ⟨clock, odb, head, sent, rfl⟩ := ih continued
      exact ⟨clock, odb, head, sent, rfl⟩
    · exact ⟨_, w.odb, w.head, w.sent, ApplyTransformers_error io cfg applied⟩
    · obtain ⟨clock, odb, head, sent, rfl⟩ := ih continued
      rw [ApplyTransformers_error io cfg applied]
      exact ⟨clock, odb, head, sent, rfl⟩

/-- A pass sends an error, never `nil`, to each element it drops, nothing to the others,
and keeps those in order. -/
theorem applyLoop_drops {rest : List Element} (run : applyLoop io cfg allow kept changes rest w = (out, w')) :
    ∃ dropped, w'.sent = w.sent ++ dropped ∧ Drops dropped out.elements (kept ++ rest) := by
  induction rest generalizing kept changes w with
  | nil =>
    simp only [applyLoop, Prod.mk.injEq] at run
    obtain ⟨rfl, rfl⟩ := run
    exact ⟨[], by simp, by simpa using Drops.refl kept⟩
  | cons e rest ih =>
    rcases applyLoop_cons io cfg run with ⟨sub, w₁, applied, continued⟩ | ⟨err, w₁, applied, -, rfl, rfl⟩ |
      ⟨err, w₁, applied, -, continued⟩
    · obtain ⟨dropped, sent, drops⟩ := ih continued
      refine ⟨dropped, by rw [sent, (ApplyTransformers_sent io cfg applied).1], ?_⟩
      simpa only [List.append_assoc, List.singleton_append] using drops
    · exact ⟨[], by simp [(ApplyTransformers_sent io cfg applied).1], Drops.refl _⟩
    · obtain ⟨dropped, sent, drops⟩ := ih continued
      refine ⟨(e.id, some err) :: dropped, ?_, drops.insert kept e (some err) rfl⟩
      simp only [sent, World.send_sent, (ApplyTransformers_sent io cfg applied).1, List.append_assoc,
        List.singleton_append]

/-- A pass only adds commits. -/
theorem applyLoop_odb {rest : List Element} (run : applyLoop io cfg allow kept changes rest w = (out, w')) :
    w.odb <+: w'.odb := by
  induction rest generalizing kept changes w with
  | nil =>
    simp only [applyLoop, Prod.mk.injEq] at run
    exact run.2 ▸ List.prefix_refl _
  | cons e rest ih =>
    rcases applyLoop_cons io cfg run with ⟨_, _, applied, continued⟩ | ⟨_, _, applied, -, -, rfl⟩ |
      ⟨_, _, applied, -, continued⟩
    · obtain ⟨_, _, _, -, -, -, rfl⟩ := ApplyTransformers_ok io cfg applied
      exact (List.prefix_append _ _).trans (ih continued)
    · exact congrArg World.odb (ApplyTransformers_error io cfg applied) ▸ List.prefix_refl _
    · have grows := ih continued
      rwa [ApplyTransformers_error io cfg applied] at grows

/-- A pass from a branch whose commit is missing fails every element and adds no commit. -/
theorem applyLoop_stuck {rest : List Element} {err : Error} (missing : StateAt cfg w = .error err)
    (run : applyLoop io cfg allow kept changes rest w = (out, w')) : w'.odb = w.odb ∧ w'.head = w.head := by
  induction rest generalizing kept changes w with
  | nil =>
    simp only [applyLoop, Prod.mk.injEq] at run
    rw [← run.2]
    exact ⟨rfl, rfl⟩
  | cons e rest ih =>
    rcases applyLoop_cons io cfg run with ⟨_, _, applied, -⟩ | ⟨_, _, applied, -, -, rfl⟩ |
      ⟨_, _, applied, -, continued⟩
    · obtain ⟨_, _, _, opened, -⟩ := ApplyTransformers_ok io cfg applied
      rw [missing] at opened
      cases opened
    · rw [ApplyTransformers_error io cfg applied]
      exact ⟨rfl, rfl⟩
    · have same := ApplyTransformers_error io cfg applied
      rw [same] at continued
      refine (fun inner => ⟨inner.1, inner.2⟩) (ih ?_ continued)
      exact (StateAt_congr cfg rfl rfl).trans missing

/-- An element whose application succeeds, after which the pass goes on: its commit is
stored in the world the pass ends in, made on the state at the branch, and the branch is
at it. -/
theorem applyLoop_made {e : Element} {sub : TransformerResult} {w₁ : World} {kept' rest : List Element}
    {changes' : TransformerResult} (applied : ApplyTransformers io cfg e.ctx e.transformers w = (.ok sub, w₁))
    (continued : applyLoop io cfg allow kept' changes' rest w₁ = (out, w')) :
    w₁.head = some ⟨w.odb.length⟩ ∧ ∃ c, w'.lookup ⟨w.odb.length⟩ = some c ∧ MadeOn io cfg w' w.head e c := by
  obtain ⟨state, c, _, opened, made, -, rfl⟩ := ApplyTransformers_ok io cfg applied
  have grows := applyLoop_odb io cfg continued
  refine ⟨rfl, c, World.lookup_of_grows grows (by simp [World.lookup]), ?_⟩
  exact ⟨state, StateAt_of_grows cfg opened ((List.prefix_append _ _).trans grows), _, _, _, _, made⟩

/-- An element whose application fails, after which the pass goes on: it fails on the state
at the branch, in the world the pass ends in. -/
theorem applyLoop_fails {e : Element} {err : Error} {w₁ : World} {rest : List Element}
    (applied : ApplyTransformers io cfg e.ctx e.transformers w = (.error err, w₁))
    (continued : applyLoop io cfg allow kept changes rest (w₁.send e.id (some err)) = (out, w')) :
    FailsOn io cfg w' w.head e := by
  have same := ApplyTransformers_error io cfg applied
  have grows := applyLoop_odb io cfg continued
  rw [same] at grows
  intro state opened
  rcases ApplyTransformers_cases io cfg applied with ⟨err, missing, -, -⟩ | ⟨state', err, opened', failed, -⟩ |
    ⟨_, _, _, -, -, ok, -⟩
  · have stuck := applyLoop_stuck io cfg (by rw [same]; exact (StateAt_congr cfg rfl rfl).trans missing) continued
    have reopened : StateAt cfg { w' with head := w.head } = StateAt cfg w :=
      StateAt_congr cfg (by show w'.odb = w.odb; rw [stuck.1, same]; rfl) rfl
    rw [reopened, missing] at opened
    cases opened
  · rw [StateAt_of_grows cfg opened' grows] at opened
    cases opened
    exact ⟨_, _, _, err, failed⟩
  · cases ok

/-- A pass that goes through its elements keeps those whose application succeeds, each
adding the commit `ElementCommit` makes on top of the one before, and drops those whose
transformers fail on the state at the branch. -/
theorem applyLoop_pass {rest S : List Element} {changes' : TransformerResult}
    (run : applyLoop io cfg allow kept changes rest w = (.done S changes', w')) :
    ∃ added, S = kept ++ added ∧ Pass io cfg w' w.head rest added w'.head := by
  induction rest generalizing kept changes w with
  | nil =>
    simp only [applyLoop, Prod.mk.injEq, PassOutcome.done.injEq] at run
    obtain ⟨⟨rfl, -⟩, rfl⟩ := run
    exact ⟨[], by simp, rfl, rfl⟩
  | cons e rest ih =>
    rcases applyLoop_cons io cfg run with ⟨_, _, applied, continued⟩ | ⟨_, _, -, -, stopped, -⟩ |
      ⟨_, _, applied, -, continued⟩
    · obtain ⟨head, c, found, made⟩ := applyLoop_made io cfg applied continued
      obtain ⟨added, rfl, pass⟩ := ih continued
      exact ⟨e :: added, by simp, .inr ⟨_, c, added, rfl, found, made, head ▸ pass⟩⟩
    · cases stopped
    · obtain ⟨added, rfl, pass⟩ := ih continued
      refine ⟨added, rfl, .inl ⟨applyLoop_fails io cfg applied continued, ?_⟩⟩
      rwa [ApplyTransformers_error io cfg applied] at pass

/-- A pass that stops at an element whose configuration cannot be read went through the
elements before it as a whole pass does, and leaves that element and those after it as
they were. -/
theorem applyLoop_interrupted {rest R : List Element} {ctx : Context}
    (run : applyLoop io cfg allow kept changes rest w = (.invalid R ctx, w')) :
    ∃ pre post added, rest = pre ++ post ∧ R = kept ++ added ++ post ∧ Pass io cfg w' w.head pre added w'.head := by
  induction rest generalizing kept changes w with
  | nil => simp [applyLoop] at run
  | cons e rest ih =>
    rcases applyLoop_cons io cfg run with ⟨_, _, applied, continued⟩ | ⟨_, _, applied, -, stopped, rfl⟩ |
      ⟨_, _, applied, -, continued⟩
    · obtain ⟨head, c, found, made⟩ := applyLoop_made io cfg applied continued
      obtain ⟨pre, post, added, rfl, rfl, pass⟩ := ih continued
      exact ⟨e :: pre, post, e :: added, rfl, by simp, .inr ⟨_, c, added, rfl, found, made, head ▸ pass⟩⟩
    · cases stopped
      exact ⟨[], e :: rest, [], rfl, by simp, rfl, by rw [ApplyTransformers_error io cfg applied]⟩
    · obtain ⟨pre, post, added, rfl, rfl, pass⟩ := ih continued
      refine ⟨e :: pre, post, added, rfl, rfl, .inl ⟨applyLoop_fails io cfg applied continued, ?_⟩⟩
      rwa [ApplyTransformers_error io cfg applied] at pass

/-- With resets disallowed a pass never stops early. -/
theorem applyLoop_done {rest : List Element} (run : applyLoop io cfg false kept changes rest w = (out, w')) :
    ∃ elements changes', out = .done elements changes' := by
  induction rest generalizing kept changes w with
  | nil =>
    simp only [applyLoop, Prod.mk.injEq] at run
    exact ⟨kept, changes, run.1.symm⟩
  | cons e rest ih =>
    rcases applyLoop_cons io cfg run with ⟨_, _, -, continued⟩ | ⟨_, _, -, allowed, -⟩ | ⟨_, _, -, -, continued⟩
    · exact ih continued
    · simp at allowed
    · exact ih continued

end Pass

/-! ## Fetch and reset -/

/-- Where a fetch-and-reset from `w` that succeeds leaves the branch: at the remote's branch
as the next answer of the fetch tape reports it, or else at the remote-tracking reference. -/
def World.fetchedHead (w : World) : Option Oid :=
  match w.nextFetch.1 with
  | .fetched _ remoteHead => remoteHead.orElse fun _ => w.tracking
  | .failed _ => w.tracking

section Fetch

variable {w w' : World} {r : Option Error}

/-- A fetch-and-reset reads one answer of the fetch tape and changes nothing but the
object database, which only grows, and the two references. -/
theorem FetchAndReset_frame (run : FetchAndReset w = (r, w')) :
    ∃ odb tracking head, w' = { w with fetches := w.fetches.tail, odb := odb, tracking := tracking, head := head } ∧
      w.odb <+: odb := by
  cases answer : w.fetches.headD (.failed (.io "fetch: no answer")) with
  | failed err =>
    simp only [FetchAndReset, World.nextFetch, answer, Prod.mk.injEq] at run
    exact ⟨w.odb, w.tracking, w.head, run.2.symm, List.prefix_refl _⟩
  | fetched objects remoteHead =>
    simp only [FetchAndReset, World.nextFetch, answer] at run
    split at run
    · simp only [Prod.mk.injEq] at run
      exact ⟨_, _, w.head, run.2.symm, List.prefix_append _ _⟩
    · split at run <;> (simp only [Prod.mk.injEq] at run; exact ⟨_, _, _, run.2.symm, List.prefix_append _ _⟩)

/-- A successful fetch-and-reset used an answer of the fetch tape and leaves the branch at
the remote-tracking reference, on a commit of the object database. -/
theorem FetchAndReset_ok (run : FetchAndReset w = (none, w')) :
    w'.fetches.length < w.fetches.length ∧ w'.head = w'.tracking ∧ ∃ state, StateAt cfg w' = .ok state := by
  cases answer : w.fetches.headD (.failed (.io "fetch: no answer")) with
  | failed err => simp only [FetchAndReset, World.nextFetch, answer, Prod.mk.injEq, reduceCtorEq, false_and] at run
  | fetched objects remoteHead =>
    simp only [FetchAndReset, World.nextFetch, answer] at run
    split at run
    · simp only [Prod.mk.injEq, reduceCtorEq, false_and] at run
    · rename_i rev tracked
      split at run
      · simp only [Prod.mk.injEq, reduceCtorEq, false_and] at run
      · rename_i c found
        simp only [Prod.mk.injEq, true_and] at run
        subst run
        have nonempty : w.fetches ≠ [] := by
          intro empty
          simp only [empty, List.headD_nil, reduceCtorEq] at answer
        refine ⟨by simpa only [List.length_tail] using Nat.sub_lt (List.length_pos.2 nonempty) Nat.one_pos,
          tracked.symm, ⟨c.tree, some rev, cfg.BootstrapMode, cfg.EnvironmentConfigsPath⟩, ?_⟩
        simp only [StateAt, found]

theorem FetchAndReset_head (run : FetchAndReset w = (none, w')) : w'.head = w.fetchedHead := by
  cases answer : w.fetches.headD (.failed (.io "fetch: no answer")) with
  | failed err => simp only [FetchAndReset, World.nextFetch, answer, Prod.mk.injEq, reduceCtorEq, false_and] at run
  | fetched objects remoteHead =>
    simp only [FetchAndReset, World.nextFetch, answer] at run
    simp only [World.fetchedHead, World.nextFetch, answer]
    split at run
    · simp only [Prod.mk.injEq, reduceCtorEq, false_and] at run
    · rename_i rev tracked
      split at run
      · simp only [Prod.mk.injEq, reduceCtorEq, false_and] at run
      · simp only [Prod.mk.injEq, true_and] at run
        rw [← run, ← tracked]

theorem FetchAndReset_fetches (run : FetchAndReset w = (r, w')) : w'.fetches <:+ w.fetches := by
  obtain ⟨_, _, _, rfl, -⟩ := FetchAndReset_frame run
  exact List.tail_suffix _

end Fetch

/-! ## Applying a batch -/

/-- Everything `applyElements` can do: go through the batch, or stop at an `invalidJson`
failure when allowed and then either fail to fetch and reset or go through the elements
left from the fetched branch with resets disallowed. -/
theorem applyElements_cases {elements S : List Element} {allow : Bool} {w w' : World}
    {err : Option Error} {changes : TransformerResult}
    (run : applyElements io cfg elements allow w = ((S, err, changes), w')) :
    (err = none ∧ applyLoop io cfg allow [] .empty elements w = (.done S changes, w')) ∨
    (∃ ctx w₁, applyLoop io cfg allow [] .empty elements w = (.invalid S ctx, w₁) ∧ err.isSome ∧
      FetchAndReset w₁ = (err, w')) ∨
    (∃ R ctx w₁ w₂, applyLoop io cfg allow [] .empty elements w = (.invalid R ctx, w₁) ∧
      FetchAndReset w₁ = (none, w₂) ∧ err = none ∧ applyLoop io cfg false [] .empty R w₂ = (.done S changes, w')) := by
  unfold applyElements at run
  rcases pass : applyLoop io cfg allow [] .empty elements w with ⟨_ | _, w₁⟩
  · simp only [pass, Prod.mk.injEq] at run
    obtain ⟨⟨rfl, rfl, rfl⟩, rfl⟩ := run
    exact .inl ⟨rfl, rfl⟩
  · rename_i R ctx
    simp only [pass] at run
    rcases reset : FetchAndReset w₁ with ⟨_ | fetchErr, w₂⟩
    · simp only [reset] at run
      rcases again : applyLoop io cfg false [] .empty R w₂ with ⟨_ | _, w₃⟩
      · simp only [again, Prod.mk.injEq] at run
        obtain ⟨⟨rfl, rfl, rfl⟩, rfl⟩ := run
        exact .inr (.inr ⟨R, ctx, w₁, w₂, rfl, reset, rfl, again⟩)
      · obtain ⟨_, _, stopped⟩ := applyLoop_done io cfg again
        cases stopped
    · simp only [reset, Prod.mk.injEq] at run
      obtain ⟨⟨rfl, rfl, rfl⟩, rfl⟩ := run
      exact .inr (.inl ⟨ctx, w₁, rfl, rfl, reset⟩)

/-- With resets disallowed, `applyElements` is one pass that goes through the batch. -/
theorem applyElements_no_reset {elements S : List Element} {w w' : World} {err : Option Error}
    {changes : TransformerResult} (run : applyElements io cfg elements false w = ((S, err, changes), w')) :
    err = none ∧ applyLoop io cfg false [] .empty elements w = (.done S changes, w') := by
  rcases applyElements_cases io cfg run with done | ⟨_, _, stopped, -⟩ | ⟨_, _, _, _, stopped, -⟩
  · exact done
  all_goals
    obtain ⟨_, _, invalid⟩ := applyLoop_done io cfg stopped
    cases invalid

/-! ## Draining, pushing, and after the push -/

/-- The values `drainQueue` sends: each cancelled element of the queue gets its context's
error. -/
def cancelledSends (queue : List Element) : List (Nat × Option Error) :=
  queue.filterMap fun f => f.ctx.Err.map fun err => (f.id, some err)

/-- The elements `drainQueue` keeps: the live ones, in order. -/
def liveElements (queue : List Element) : List Element := queue.filter fun f => f.ctx.Err.isNone

/-- The loop of `drainQueue` keeps the live elements in order and sends each cancelled one
its context's error. -/
theorem drainFrom_eq (rest elements : List Element) (w : World) :
    drainFrom rest elements w = (elements ++ liveElements rest, { w with sent := w.sent ++ cancelledSends rest }) := by
  induction rest generalizing elements w with
  | nil => simp [drainFrom, liveElements, cancelledSends]
  | cons f rest ih =>
    simp only [liveElements, cancelledSends] at ih ⊢
    cases cancelled : f.ctx.Err with
    | none =>
      simp only [drainFrom, cancelled, ih, List.filter_cons, Option.isNone_none, if_true, List.filterMap_cons,
        Option.map_none', List.append_assoc, List.singleton_append]
    | some err =>
      simp only [drainFrom, cancelled, ih, List.filter_cons, Option.isNone_some, Bool.false_eq_true, if_false,
        List.filterMap_cons, Option.map_some', World.send, List.append_assoc, List.singleton_append]

/-- Draining drops the cancelled elements of the queue with their contexts' errors. -/
theorem drainQueue_drops (queue : List Element) : Drops (cancelledSends queue) (liveElements queue) queue := by
  induction queue with
  | nil => exact Drops.refl []
  | cons f queue ih =>
    cases cancelled : f.ctx.Err with
    | none => simpa [cancelledSends, liveElements, cancelled] using ih.cons f
    | some err => simpa [cancelledSends, liveElements, cancelled] using ih.insert [] f (some err) rfl

/-- Pushing reads the push tape and changes nothing else. -/
theorem Push_frame (callback : String × String → Bool → Bool) (retries : Nat) (flag : Bool) (w : World) :
    ∃ pushes, (Push callback retries flag w).2.2 = { w with pushes := pushes } := by
  induction retries generalizing flag w with
  | zero =>
    rw [Push]
    simp only [World.nextPush]
    split <;> (try split) <;> exact ⟨_, rfl⟩
  | succ retries ih =>
    rw [Push]
    simp only [World.nextPush]
    split
    · exact ⟨_, rfl⟩
    · split
      · exact ⟨_, rfl⟩
      · split
        · exact ⟨_, rfl⟩
        · exact ih _ _

/-- The webhook's requests change nothing but the payloads sent and Argo CD's answers read. -/
theorem webhookAttempts_frame (data : ArgoWebhookData) (tries : Nat) (w : World) :
    ∃ webhooks argoAnswers, webhookAttempts data tries w = { w with webhooks := webhooks, argoAnswers := argoAnswers } := by
  induction tries generalizing w with
  | zero => exact ⟨w.webhooks, w.argoAnswers, rfl⟩
  | succ tries ih =>
    cases answer : w.argoAnswers.headD none with
    | none => exact ⟨w.webhooks ++ [data], w.argoAnswers.tail, by simp only [webhookAttempts, World.nextArgoAnswer, answer]⟩
    | some status =>
      simp only [webhookAttempts, World.nextArgoAnswer, answer]
      split
      · exact ih _
      · exact ⟨_, _, rfl⟩

/-- The deferred send puts the final error on every element's channel, in order. -/
theorem finish_eq (elements : List Element) (err : Option Error) (w : World) :
    finish elements err w = { w with sent := w.sent ++ elements.map fun el => (el.id, err) } := by
  induction elements generalizing w with
  | nil => simp [finish]
  | cons el elements ih =>
    simp only [finish, List.foldl_cons] at ih ⊢
    rw [ih]
    simp [World.send]

/-- After the push: the webhook's requests, one notification, and the deferred send. -/
theorem postPush_eq (elements : List Element) (err : Option Error) (changes : TransformerResult) (w : World) :
    ∃ webhooks argoAnswers, postPush cfg elements err changes w =
      { w with
        webhooks := webhooks
        argoAnswers := argoAnswers
        notifications := w.notifications + 1
        sent := w.sent ++ elements.map fun el => (el.id, err) } := by
  unfold postPush
  split
  · obtain ⟨webhooks, argoAnswers, same⟩ := webhookAttempts_frame (argoWebhookData cfg changes) maxArgoRequests w
    exact ⟨webhooks, argoAnswers, by rw [same, finish_eq]⟩
  · exact ⟨w.webhooks, w.argoAnswers, finish_eq _ _ _⟩

theorem finish_sameRepository (elements : List Element) (err : Option Error) (w : World) :
    w.SameRepository (finish elements err w) := by
  rw [finish_eq]
  exact ⟨rfl, rfl, rfl, rfl⟩

theorem postPush_sameRepository (elements : List Element) (err : Option Error) (changes : TransformerResult)
    (w : World) : w.SameRepository (postPush cfg elements err changes w) := by
  obtain ⟨_, _, same⟩ := postPush_eq cfg elements err changes w
  rw [same]
  exact ⟨rfl, rfl, rfl, rfl⟩

end Steps

end Kuberpult
