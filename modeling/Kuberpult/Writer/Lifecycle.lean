import Kuberpult.Writer.Delivery
import Mathlib.Logic.Relation

/-! The writer's whole life: the loop of `repository.ProcessQueue` together with its
clients. A client hands a request to the queue (`Apply`, through `applyDeferred`) with a
result channel of its own, which holds one value until it is read, and then waits in
`Apply` for that value or for its context to end, whichever comes first; it reads the
channel at most once. The loop receives the queue's head and runs `ProcessQueueOnce` on
it, making that call's sends one at a time: a send waits while the channel still holds an
unread value. Once its own context is done, the loop closes the queue and sends that
context's error to every request still in it. `WriterStep` allows these moves in any
interleaving.

1. **A call empties the queue.** A call whose first element is live drains the queue and
   no later step of it touches the queue again (`ProcessQueueOnce_queue`).
2. **The invariant.** `WriterSystem.Inv` relates the values sent, and those the loop is
   still to send, to the requests: values go only to requests, a queued request has none,
   and a request that left the queue has one, or two when its context was already done
   when the loop received it. The loop's next send can wait only for that second value.
   Each move keeps it (`WriterStep.inv`).
3. **Delivery over every run** (`writer_replies`): from a writer before any request, in
   every interleaving, the number of values each request got or is to get is exactly that,
   and the loop waits on a full channel only to send the second value of a request it
   received with its context done.
4. **The loop can stop for good** (`writer_blocked_for_good`): when that second value
   waits on a channel whose client has returned without reading the first, nothing ever
   empties the channel. The loop never sends, receives or shuts down again, and a request
   enqueued later waits forever (`blocked_writer_run`).

The second value of a request received with its context done is the panic error of
`ProcessQueueOnce`'s deferred send, which its early return does not skip. -/
namespace Kuberpult

section Lifecycle

variable (io : Collaborators) (cfg : RepositoryConfig)

/-! ## The queue across a call -/

theorem applyLoop_queue {allow : Bool} {kept rest : List Element} {changes : TransformerResult}
    {w w' : World} {out : PassOutcome} (run : applyLoop io cfg allow kept changes rest w = (out, w')) :
    w'.queue = w.queue := by
  obtain ⟨_, _, _, _, rfl⟩ := applyLoop_frame io cfg run
  rfl

theorem FetchAndReset_queue {w w' : World} {r : Option Error} (run : FetchAndReset w = (r, w')) :
    w'.queue = w.queue := by
  obtain ⟨_, _, _, rfl, -⟩ := FetchAndReset_frame run
  rfl

theorem applyElements_queue {elements S : List Element} {allow : Bool} {w w' : World}
    {err : Option Error} {changes : TransformerResult}
    (run : applyElements io cfg elements allow w = ((S, err, changes), w')) : w'.queue = w.queue := by
  rcases applyElements_cases io cfg run with ⟨-, pass⟩ | ⟨_, _, pass, -, reset⟩ |
    ⟨_, _, _, _, pass, reset, -, again⟩
  · exact applyLoop_queue io cfg pass
  · rw [FetchAndReset_queue reset, applyLoop_queue io cfg pass]
  · rw [applyLoop_queue io cfg again, FetchAndReset_queue reset, applyLoop_queue io cfg pass]

theorem Push_queue {callback : String × String → Bool → Bool} {retries : Nat} {flag flag' : Bool}
    {w w' : World} {r : Option Error} (run : Push callback retries flag w = (r, flag', w')) :
    w'.queue = w.queue := by
  obtain ⟨_, same⟩ := Push_frame callback retries flag w
  rw [run] at same
  rw [show w' = _ from same]

@[simp] theorem finish_queue (elements : List Element) (err : Option Error) (w : World) :
    (finish elements err w).queue = w.queue := by
  rw [finish_eq]

@[simp] theorem postPush_queue (elements : List Element) (err : Option Error) (changes : TransformerResult)
    (w : World) : (postPush cfg elements err changes w).queue = w.queue := by
  obtain ⟨_, _, same⟩ := postPush_eq cfg elements err changes w
  rw [same]

/-- A call whose first element is live leaves the queue empty: it drains the queue, and no
later step of it touches the queue. -/
theorem ProcessQueueOnce_queue {e : Element} (callback : PushUpdateFunc) (w : World) (live : e.ctx.Err = none) :
    (ProcessQueueOnce io cfg e callback w).queue = [] := by
  obtain ⟨S, err, changes, w₁, applied, paths⟩ := ProcessQueueOnce_cases io cfg callback w live
  have queue₁ : w₁.queue = [] := by rw [applyElements_queue io cfg applied, drainQueue_eq]
  rcases paths with ⟨ends, -⟩ | ⟨-, -, _, _, w₂, pushed, pushPaths⟩
  · rw [ends, finish_queue, queue₁]
  have queue₂ : w₂.queue = [] := (Push_queue pushed).trans queue₁
  rcases pushPaths with ⟨_, -, -, ends⟩ | ⟨_, _, w₃, -, -, reset, ⟨-, ends⟩ | ⟨-, _, _, w₄, again, ends⟩⟩
  · rw [ends, postPush_queue, queue₂]
  · rw [ends, finish_queue, FetchAndReset_queue reset, queue₂]
  · have queue₄ : w₄.queue = [] := by rw [applyElements_queue io cfg again, FetchAndReset_queue reset, queue₂]
    rcases ends with ⟨-, ends⟩ | ⟨-, _, _, w₅, pushed', _, -, ends⟩
    · rw [ends, finish_queue, queue₄]
    · rw [ends, postPush_queue, Push_queue pushed', queue₄]

/-! ## The loop and its clients -/

/-- A client's context ends: its request, if still queued and live, now reports the error;
a context that is done stays done with its first error. -/
def World.cancel (w : World) (id : Nat) (err : Error) : World :=
  { w with queue := w.queue.map fun e =>
      if e.id = id ∧ e.ctx.Err = none then { e with ctx := { e.ctx with Err := some err } } else e }

/-- The writer's loop with its clients and their result channels. Besides the world, whose
`sent` lists the values put on the channels: the sends the loop has still to make, in
order; the values a channel holds unread, one at most per request; the clients still
waiting in `Apply`; the requests whose context ended. And three history variables: the
requests handed to the queue, those the loop received with their context done, and
whether the loop shut down. -/
structure WriterSystem where
  world : World
  pending : List (Nat × Option Error)
  unread : List (Nat × Option Error)
  waiting : List Nat
  ended : List Nat
  requests : List Nat
  receivedDone : List Nat
  closed : Bool

/-- A writer before any request: the queue is empty and nothing was sent; the remote's,
the clock's and Argo CD's tapes are any. -/
def WriterSystem.init (w : World) : WriterSystem := ⟨{ w with queue := [], sent := [] }, [], [], [], [], [], [], false⟩

/-- The requests waiting in the queue. -/
def WriterSystem.queued (s : WriterSystem) : List Nat := s.world.queue.map Element.id

/-- How many values the loop put, or is still to put, on the result channel of request
`id`. -/
def WriterSystem.replies (s : WriterSystem) (id : Nat) : Nat := ((s.world.sent ++ s.pending).map Prod.fst).count id

/-- `applyDeferred`: a client hands a request, with a result channel of its own, to the
queue, and waits in `Apply`. -/
def WriterSystem.enqueue (s : WriterSystem) (e : Element) : WriterSystem :=
  { s with
    world := { s.world with queue := s.world.queue ++ [e] }
    requests := s.requests ++ [e.id]
    waiting := s.waiting ++ [e.id] }

/-- A client's context ends. -/
def WriterSystem.cancel (s : WriterSystem) (id : Nat) (err : Error) : WriterSystem :=
  { s with world := s.world.cancel id err, ended := s.ended ++ [id] }

/-- `case <-ctx.Done()` in `Apply`: a client whose context ended returns without reading. -/
def WriterSystem.giveUp (s : WriterSystem) (id : Nat) : WriterSystem := { s with waiting := s.waiting.erase id }

/-- `case err := <-eCh` in `Apply`: a client reads the value its channel holds and returns. -/
def WriterSystem.read (s : WriterSystem) (x : Nat × Option Error) : WriterSystem :=
  { s with unread := s.unread.erase x, waiting := s.waiting.erase x.1 }

/-- The loop receives `e`, the queue's head, with `case e := <-r.queue.elements`, and runs
`ProcessQueueOnce` on it with the default push callbacks. The values the call sends are
the sends it has still to make. -/
def WriterSystem.receive (s : WriterSystem) (e : Element) (rest : List Element) : WriterSystem :=
  let w := ProcessQueueOnce io cfg e defaultPushUpdate { s.world with queue := rest, sent := [] }
  { s with
    world := { w with sent := s.world.sent }
    pending := w.sent
    receivedDone := if e.ctx.Err.isSome then s.receivedDone ++ [e.id] else s.receivedDone }

/-- The loop makes its next send: the value goes into the channel's buffer. -/
def WriterSystem.deliver (s : WriterSystem) (x : Nat × Option Error) (rest : List (Nat × Option Error)) :
    WriterSystem :=
  { s with world := { s.world with sent := s.world.sent ++ [x] }, unread := s.unread ++ [x], pending := rest }

/-- The loop's context is done: `ProcessQueue` returns, and its deferred function closes
the queue and sends that context's error to every element still in it. -/
def WriterSystem.shutdown (s : WriterSystem) (ctxErr : Error) : WriterSystem :=
  { s with
    world := { s.world with queue := [] }
    pending := s.world.queue.map fun e => (e.id, some ctxErr)
    closed := true }

/-- The moves of the writer and its clients, in any interleaving. A client hands over a
request with a live context, before the loop shut down. The loop receives only from a
queue that holds an element, and only between calls; it sends a value only into an empty
buffer, and otherwise waits. -/
inductive WriterStep : WriterSystem → WriterSystem → Prop
  | enqueue {s : WriterSystem} (e : Element) (fresh : e.id ∉ s.requests) (live : e.ctx.Err = none)
      (running : s.closed = false) : WriterStep s (s.enqueue e)
  | cancel {s : WriterSystem} (id : Nat) (err : Error) : WriterStep s (s.cancel id err)
  | giveUp {s : WriterSystem} (id : Nat) (waiting : id ∈ s.waiting) (ended : id ∈ s.ended) :
      WriterStep s (s.giveUp id)
  | read {s : WriterSystem} (x : Nat × Option Error) (buffered : x ∈ s.unread) (waiting : x.1 ∈ s.waiting) :
      WriterStep s (s.read x)
  | receive {s : WriterSystem} (e : Element) (rest : List Element) (queued : s.world.queue = e :: rest)
      (idle : s.pending = []) (running : s.closed = false) : WriterStep s (s.receive io cfg e rest)
  | deliver {s : WriterSystem} (x : Nat × Option Error) (rest : List (Nat × Option Error)) (next : s.pending = x :: rest)
      (empty : x.1 ∉ s.unread.map Prod.fst) : WriterStep s (s.deliver x rest)
  | shutdown {s : WriterSystem} (ctxErr : Error) (idle : s.pending = []) (running : s.closed = false) :
      WriterStep s (s.shutdown ctxErr)

/-- The states a writer reaches from one before any request. -/
inductive WriterReachable : WriterSystem → Prop
  | init (w : World) : WriterReachable (.init w)
  | step {s s' : WriterSystem} : WriterReachable s → WriterStep io cfg s s' → WriterReachable s'

/-! ## The invariant -/

/-- The panic error of `ProcessQueueOnce`'s deferred send. -/
def panicValue : Option Error := some (.text "Panic")

/-- The sends the loop has still to make: each to a request with no value yet and one per
request; or the two values of a request received with its context done; or the second of
these alone. -/
inductive WriterSystem.PendingShape (s : WriterSystem) : Prop
  | fresh (nodup : (s.pending.map Prod.fst).Nodup) (unsent : ∀ x ∈ s.pending, x.1 ∉ s.world.sent.map Prod.fst)
  | cancelled (id : Nat) (err : Option Error) (pair : s.pending = [(id, err), (id, panicValue)])
      (unsent : id ∉ s.world.sent.map Prod.fst) (received : id ∈ s.receivedDone)
  | panicLeft (id : Nat) (single : s.pending = [(id, panicValue)]) (sent : id ∈ s.world.sent.map Prod.fst)
      (received : id ∈ s.receivedDone)

/-- What the values sent and to be sent say about the requests: values go only to
requests; a queued request has none and was never received; a request that left the queue
has one, or two when the loop received it with its context done. A value waiting unread
was sent, and the sends still to make have one of the shapes of `PendingShape`. -/
structure WriterSystem.Inv (s : WriterSystem) : Prop where
  queuedNodup : s.queued.Nodup
  queuedRequests : ∀ id ∈ s.queued, id ∈ s.requests
  receivedRequests : ∀ id ∈ s.receivedDone, id ∈ s.requests
  repliesToRequests : ∀ x ∈ s.world.sent ++ s.pending, x.1 ∈ s.requests
  waiting : ∀ id ∈ s.queued, s.replies id = 0 ∧ id ∉ s.receivedDone
  answered : ∀ id ∈ s.requests, id ∉ s.queued → s.replies id = if id ∈ s.receivedDone then 2 else 1
  closedEmpty : s.closed = true → s.world.queue = []
  unreadSent : ∀ x ∈ s.unread, x.1 ∈ s.world.sent.map Prod.fst
  pendingShape : s.PendingShape

theorem WriterSystem.init_inv (w : World) : (WriterSystem.init w).Inv where
  queuedNodup := List.nodup_nil
  queuedRequests _ := nofun
  receivedRequests _ := nofun
  repliesToRequests _ := nofun
  waiting _ := nofun
  answered _ := nofun
  closedEmpty _ := rfl
  unreadSent _ := nofun
  pendingShape := .fresh List.nodup_nil nofun

@[simp] theorem World.cancel_ids (w : World) (id : Nat) (err : Error) :
    (w.cancel id err).queue.map Element.id = w.queue.map Element.id := by
  simp only [World.cancel, List.map_map]
  congr 1
  funext e
  simp only [Function.comp_apply]
  split <;> rfl

/-- The loop waits on a full channel only to send the second value of a request it
received with its context done, and that value is the last it has to send. -/
theorem WriterSystem.Inv.blocked {s : WriterSystem} (inv : s.Inv) {x : Nat × Option Error}
    {rest : List (Nat × Option Error)} (next : s.pending = x :: rest) (full : x.1 ∈ s.unread.map Prod.fst) :
    x.1 ∈ s.receivedDone ∧ x.2 = panicValue ∧ rest = [] := by
  obtain ⟨y, buffered, same⟩ := List.mem_map.1 full
  have sent := same ▸ inv.unreadSent y buffered
  rcases inv.pendingShape with ⟨-, unsent⟩ | ⟨id, err, pair, unsent, -⟩ | ⟨id, single, -, received⟩
  · exact absurd sent (unsent x (next ▸ List.mem_cons_self _ _))
  · rw [pair] at next
    cases next
    exact absurd sent unsent
  · rw [single] at next
    cases next
    exact ⟨received, rfl, rfl⟩

variable {s s' : WriterSystem}

theorem WriterSystem.replies_of_sends (sends : List (Nat × Option Error))
    (values : s'.world.sent ++ s'.pending = s.world.sent ++ s.pending ++ sends) (id : Nat) :
    s'.replies id = s.replies id + (sends.map Prod.fst).count id := by
  simp only [WriterSystem.replies, values, List.map_append, List.count_append]

/-- Between calls, a request with no value counted was sent none. -/
theorem WriterSystem.unsent_of_replies (idle : s.pending = []) {id : Nat} (none : s.replies id = 0) :
    id ∉ s.world.sent.map Prod.fst := by
  simpa [WriterSystem.replies, idle, List.count_eq_zero] using none

theorem WriterSystem.PendingShape.of_eq (shape : s.PendingShape) (pending : s'.pending = s.pending)
    (sent : s'.world.sent = s.world.sent) (received : ∀ id ∈ s.receivedDone, id ∈ s'.receivedDone) :
    s'.PendingShape := by
  rcases shape with ⟨nodup, unsent⟩ | ⟨id, err, pair, unsent, done⟩ | ⟨id, single, wasSent, done⟩
  · exact .fresh (pending ▸ nodup) (by rw [pending, sent]; exact unsent)
  · exact .cancelled id err (pending.trans pair) (sent ▸ unsent) (received id done)
  · exact .panicLeft id (pending.trans single) (sent ▸ wasSent) (received id done)

/-- A move that sends nothing and keeps the queue's requests keeps the invariant: a
context that ends, a client that returns. -/
theorem WriterSystem.Inv.of_same (inv : s.Inv) (queued : s'.queued = s.queued)
    (emptied : s.world.queue = [] → s'.world.queue = []) (sent : s'.world.sent = s.world.sent)
    (pending : s'.pending = s.pending) (requests : s'.requests = s.requests) (received : s'.receivedDone = s.receivedDone)
    (closed : s'.closed = s.closed) (unread : ∀ x ∈ s'.unread, x ∈ s.unread) : s'.Inv := by
  have replies : s'.replies = s.replies :=
    funext (WriterSystem.replies_of_sends [] (by rw [sent, pending, List.append_nil]))
  refine ⟨?_, ?_, ?_, ?_, ?_, ?_, fun isClosed => emptied (inv.closedEmpty (closed ▸ isClosed)),
    fun x mem => sent ▸ inv.unreadSent x (unread x mem), inv.pendingShape.of_eq pending sent fun _ => received ▸ id⟩
  · rw [queued]; exact inv.queuedNodup
  · rw [queued, requests]; exact inv.queuedRequests
  · rw [requests, received]; exact inv.receivedRequests
  · rw [sent, pending, requests]; exact inv.repliesToRequests
  · rw [queued, replies, received]; exact inv.waiting
  · rw [queued, replies, received, requests]; exact inv.answered

theorem WriterSystem.Inv.enqueue (inv : s.Inv) {e : Element} (fresh : e.id ∉ s.requests) (running : s.closed = false) :
    (s.enqueue e).Inv := by
  have queued : (s.enqueue e).queued = s.queued ++ [e.id] := by simp [WriterSystem.queued, WriterSystem.enqueue]
  have requests : (s.enqueue e).requests = s.requests ++ [e.id] := rfl
  have replies : (s.enqueue e).replies = s.replies := rfl
  have unanswered : s.replies e.id = 0 := List.count_eq_zero.2 fun sent => by
    obtain ⟨x, mem, same⟩ := List.mem_map.1 sent
    exact fresh (same ▸ inv.repliesToRequests x mem)
  have notQueued : e.id ∉ s.queued := fun mem => fresh (inv.queuedRequests _ mem)
  refine ⟨?_, ?_, ?_, ?_, ?_, ?_, fun closed => absurd closed (by simp [WriterSystem.enqueue, running]),
    inv.unreadSent, inv.pendingShape.of_eq rfl rfl fun _ mem => mem⟩
  · rw [queued]
    exact inv.queuedNodup.append (List.nodup_singleton _) (List.disjoint_singleton.2 notQueued)
  · rw [queued, requests]
    intro id mem
    rcases List.mem_append.1 mem with old | new
    exacts [List.mem_append_left _ (inv.queuedRequests id old), List.mem_append_right _ new]
  · rw [requests]
    exact fun id mem => List.mem_append_left _ (inv.receivedRequests id mem)
  · rw [requests]
    exact fun x mem => List.mem_append_left _ (inv.repliesToRequests x mem)
  · rw [queued, replies]
    intro id mem
    rcases List.mem_append.1 mem with old | new
    · exact inv.waiting id old
    · rw [List.mem_singleton.1 new]
      exact ⟨unanswered, fun done => fresh (inv.receivedRequests _ done)⟩
  · rw [requests, queued, replies]
    intro id mem waiting
    rcases List.mem_append.1 mem with old | new
    · exact inv.answered id old fun queued => waiting (List.mem_append_left _ queued)
    · exact absurd (List.mem_append_right _ new) waiting

/-- A move that is to answer every queued request once and empties the queue keeps the
invariant: a call on a live head, and the shutdown. -/
theorem WriterSystem.Inv.answer_queued (inv : s.Inv) {sends : List (Nat × Option Error)} (idle : s.pending = [])
    (sent : s'.world.sent = s.world.sent) (pending : s'.pending = sends) (answers : (sends.map Prod.fst).Perm s.queued)
    (emptied : s'.world.queue = []) (requests : s'.requests = s.requests) (received : s'.receivedDone = s.receivedDone)
    (unread : s'.unread = s.unread) : s'.Inv := by
  have none : s'.queued = [] := by simp [WriterSystem.queued, emptied]
  have replies : ∀ id, s'.replies id = s.replies id + (sends.map Prod.fst).count id :=
    WriterSystem.replies_of_sends sends (by rw [sent, pending, idle, List.append_nil])
  refine ⟨?_, ?_, ?_, ?_, ?_, ?_, fun _ => emptied, ?_, ?_⟩
  · rw [none]; exact List.nodup_nil
  · rw [none]; exact fun _ => nofun
  · rw [requests, received]; exact inv.receivedRequests
  · intro x mem
    rw [requests]
    rcases List.mem_append.1 mem with old | new
    · exact inv.repliesToRequests x (List.mem_append_left _ (sent ▸ old))
    · exact inv.queuedRequests _ (answers.subset (List.mem_map_of_mem _ (pending ▸ new)))
  · rw [none]; exact fun _ => nofun
  · intro id mem _
    rw [requests] at mem
    rw [replies, answers.count_eq, received]
    by_cases waiting : id ∈ s.queued
    · rw [(inv.waiting id waiting).1, List.count_eq_one_of_mem inv.queuedNodup waiting,
        if_neg (inv.waiting id waiting).2]
    · rw [List.count_eq_zero.2 waiting, Nat.add_zero]
      exact inv.answered id mem waiting
  · rw [unread, sent]; exact inv.unreadSent
  · refine .fresh (by rw [pending]; exact answers.nodup_iff.2 inv.queuedNodup) fun x mem => sent ▸
      WriterSystem.unsent_of_replies idle (inv.waiting _ (answers.subset (List.mem_map_of_mem _ (pending ▸ mem)))).1

/-- A call on a head whose context is done is to answer it twice and leaves the rest
queued. -/
theorem WriterSystem.Inv.receive_done (inv : s.Inv) {e : Element} {err : Error} (idle : s.pending = [])
    (ids : s.queued = e.id :: s'.queued) (sent : s'.world.sent = s.world.sent)
    (pending : s'.pending = [(e.id, some err), (e.id, panicValue)]) (requests : s'.requests = s.requests)
    (received : s'.receivedDone = s.receivedDone ++ [e.id]) (running : s'.closed = false)
    (unread : s'.unread = s.unread) : s'.Inv := by
  have first : e.id ∈ s.queued := ids ▸ List.mem_cons_self _ _
  have head : e.id ∈ s.requests := inv.queuedRequests _ first
  obtain ⟨notLeft, leftNodup⟩ := List.nodup_cons.1 (ids ▸ inv.queuedNodup)
  have unanswered := (inv.waiting e.id first).1
  have replies : ∀ id, s'.replies id = s.replies id + ([(e.id, some err), (e.id, panicValue)].map Prod.fst).count id :=
    WriterSystem.replies_of_sends _ (by rw [sent, pending, idle, List.append_nil])
  have count (id : Nat) (other : id ≠ e.id) : s'.replies id = s.replies id := by
    rw [replies, List.count_eq_zero.2 (by simp [other]), Nat.add_zero]
  refine ⟨leftNodup, ?_, ?_, ?_, ?_, ?_, fun closed => absurd (running ▸ closed) Bool.false_ne_true, ?_, ?_⟩
  · exact fun id mem => requests ▸ inv.queuedRequests id (ids ▸ List.mem_cons_of_mem _ mem)
  · intro id mem
    rw [requests]
    rcases List.mem_append.1 (received ▸ mem) with old | new
    exacts [inv.receivedRequests id old, List.mem_singleton.1 new ▸ head]
  · intro x mem
    rw [requests]
    rcases List.mem_append.1 mem with old | new
    · exact inv.repliesToRequests x (List.mem_append_left _ (sent ▸ old))
    · rw [pending] at new
      rcases List.mem_pair.1 new with rfl | rfl <;> exact head
  · intro id mem
    have other : id ≠ e.id := fun same => notLeft (same ▸ mem)
    obtain ⟨none, notDone⟩ := inv.waiting id (ids ▸ List.mem_cons_of_mem _ mem)
    rw [count id other, received, List.mem_append, List.mem_singleton]
    exact ⟨none, fun done => done.elim notDone other⟩
  · intro id mem notLeft'
    rw [requests] at mem
    simp only [received, List.mem_append, List.mem_singleton]
    by_cases same : id = e.id
    · subst same
      rw [replies, unanswered, if_pos (.inr rfl)]
      simp
    · have notQueued : id ∉ s.queued := by rw [ids]; exact fun mem => (List.mem_cons.1 mem).elim same notLeft'
      rw [count id same, inv.answered id mem notQueued]
      simp only [same, or_false]
  · rw [unread, sent]; exact inv.unreadSent
  · exact .cancelled e.id (some err) pending (sent ▸ WriterSystem.unsent_of_replies idle unanswered)
      (received ▸ List.mem_append_right _ (List.mem_singleton_self _))

/-- The loop's next send keeps the invariant. -/
theorem WriterSystem.Inv.deliver (inv : s.Inv) {x : Nat × Option Error} {rest : List (Nat × Option Error)}
    (next : s.pending = x :: rest) : (s.deliver x rest).Inv := by
  have values : (s.deliver x rest).world.sent ++ (s.deliver x rest).pending = s.world.sent ++ s.pending := by
    simp [WriterSystem.deliver, next]
  have replies : (s.deliver x rest).replies = s.replies :=
    funext (WriterSystem.replies_of_sends [] (by rw [values, List.append_nil]))
  refine ⟨inv.queuedNodup, inv.queuedRequests, inv.receivedRequests, values ▸ inv.repliesToRequests,
    replies ▸ inv.waiting, replies ▸ inv.answered, inv.closedEmpty, fun y mem => ?_, ?_⟩
  · simp only [WriterSystem.deliver, List.mem_append, List.mem_singleton, List.map_append, List.map_cons,
      List.map_nil] at mem ⊢
    rcases mem with old | rfl
    exacts [.inl (inv.unreadSent y old), .inr rfl]
  · rcases inv.pendingShape with ⟨nodup, unsent⟩ | ⟨id, err, pair, unsent, done⟩ | ⟨id, single, -, -⟩
    · rw [next, List.map_cons, List.nodup_cons] at nodup
      refine .fresh nodup.2 fun y mem => ?_
      have other : y.1 ≠ x.1 := fun same => nodup.1 (same ▸ List.mem_map_of_mem _ mem)
      simpa [WriterSystem.deliver, other] using unsent y (next ▸ List.mem_cons_of_mem _ mem)
    · rw [pair] at next
      obtain ⟨rfl, rfl⟩ := List.cons.inj next
      exact .panicLeft id rfl (by simp [WriterSystem.deliver]) done
    · rw [single] at next
      obtain ⟨-, rfl⟩ := List.cons.inj next
      exact .fresh List.nodup_nil nofun

/-- Every move of the writer and its clients keeps the invariant. -/
theorem WriterStep.inv (step : WriterStep io cfg s s') (inv : s.Inv) : s'.Inv := by
  cases step with
  | enqueue e fresh _ running => exact inv.enqueue fresh running
  | cancel id err =>
    exact inv.of_same (World.cancel_ids s.world id err) (fun empty => by simp [WriterSystem.cancel, World.cancel, empty])
      rfl rfl rfl rfl rfl fun _ mem => mem
  | giveUp id => exact inv.of_same rfl (fun empty => empty) rfl rfl rfl rfl rfl fun _ mem => mem
  | read x => exact inv.of_same rfl (fun empty => empty) rfl rfl rfl rfl rfl fun _ => List.mem_of_mem_erase
  | receive e rest queued idle running =>
    cases done : e.ctx.Err with
    | none =>
      obtain ⟨sends, sent, answers⟩ :=
        ProcessQueueOnce_sends_once io cfg defaultPushUpdate { s.world with queue := rest, sent := [] } done
      exact inv.answer_queued idle rfl sent (by simpa [WriterSystem.queued, queued] using answers)
        (ProcessQueueOnce_queue io cfg defaultPushUpdate _ done) rfl (by simp [WriterSystem.receive, done]) rfl
    | some err =>
      have call := ProcessQueueOnce_of_cancelled io cfg defaultPushUpdate { s.world with queue := rest, sent := [] } done
      exact inv.receive_done (e := e) idle
        (by simp [WriterSystem.queued, WriterSystem.receive, queued, call]) rfl
        (by simp only [WriterSystem.receive]; rw [call]; rfl) rfl (by simp [WriterSystem.receive, done]) running rfl
  | deliver x rest next => exact inv.deliver next
  | shutdown ctxErr idle =>
    exact inv.answer_queued (s := s) idle rfl rfl (by simp [WriterSystem.shutdown, WriterSystem.queued, Function.comp_def])
      rfl rfl rfl rfl

theorem WriterReachable.inv (reach : WriterReachable io cfg s) : s.Inv := by
  induction reach with
  | init w => exact WriterSystem.init_inv w
  | step _ step ih => exact step.inv io cfg ih

/-- **No request is lost, and none is answered out of turn.** Over every run of the writer
and its clients, in any interleaving: a value goes only to a request handed to the queue; a
request has no value while it waits in the queue; once the loop took it off, the loop has
sent it, or is still to send it, one value, and two when the loop received it with its
context already done; after the shutdown every request has a value sent or to be sent.
The loop waits on a full channel only to send that second value, the last of its call. -/
theorem writer_replies (reach : WriterReachable io cfg s) :
    (∀ x ∈ s.world.sent ++ s.pending, x.1 ∈ s.requests) ∧
    (∀ id ∈ s.requests, s.replies id = if id ∈ s.queued then 0 else if id ∈ s.receivedDone then 2 else 1) ∧
    (s.closed = true → ∀ id ∈ s.requests, 1 ≤ s.replies id) ∧
    (∀ x rest, s.pending = x :: rest → x.1 ∈ s.unread.map Prod.fst →
      x.1 ∈ s.receivedDone ∧ x.2 = panicValue ∧ rest = []) := by
  have inv := reach.inv io cfg
  have replies : ∀ id ∈ s.requests,
      s.replies id = if id ∈ s.queued then 0 else if id ∈ s.receivedDone then 2 else 1 := by
    intro id mem
    by_cases waiting : id ∈ s.queued
    · rw [if_pos waiting, (inv.waiting id waiting).1]
    · rw [if_neg waiting, inv.answered id mem waiting]
  refine ⟨inv.repliesToRequests, replies, fun closed id mem => ?_, fun x rest next full => inv.blocked next full⟩
  have notQueued : id ∉ s.queued := by simp [WriterSystem.queued, inv.closedEmpty closed]
  rw [replies id mem, if_neg notQueued]
  split <;> omega

/-- What a blocked loop keeps, move after move: its sends, the values sent, the queue's
requests in order, the value in the channel it waits on, and that channel's client gone. -/
theorem WriterStep.blocked {x : Nat × Option Error} {rest : List (Nat × Option Error)} (step : WriterStep io cfg s s')
    (next : s.pending = x :: rest) (full : x.1 ∈ s.unread.map Prod.fst) (gone : x.1 ∉ s.waiting)
    (requested : x.1 ∈ s.requests) :
    s'.pending = s.pending ∧ s'.world.sent = s.world.sent ∧ s.queued <+: s'.queued ∧
      x.1 ∈ s'.unread.map Prod.fst ∧ x.1 ∉ s'.waiting ∧ x.1 ∈ s'.requests := by
  cases step with
  | enqueue e fresh =>
    have other : x.1 ≠ e.id := fun same => fresh (same ▸ requested)
    exact ⟨rfl, rfl, by simp [WriterSystem.queued, WriterSystem.enqueue], full,
      by simp [WriterSystem.enqueue, gone, other], by simp [WriterSystem.enqueue, requested]⟩
  | cancel id err =>
    exact ⟨rfl, rfl, by simp [WriterSystem.queued, WriterSystem.cancel], full, gone, requested⟩
  | giveUp id => exact ⟨rfl, rfl, List.prefix_refl _, full, fun mem => gone (List.mem_of_mem_erase mem), requested⟩
  | read y buffered waiting =>
    have other : y.1 ≠ x.1 := fun same => gone (same ▸ waiting)
    obtain ⟨z, held, same⟩ := List.mem_map.1 full
    have kept : z ∈ s.unread.erase y := (List.mem_erase_of_ne fun equal => other (by rw [← equal]; exact same)).2 held
    exact ⟨rfl, rfl, List.prefix_refl _, List.mem_map.2 ⟨z, kept, same⟩,
      fun mem => gone (List.mem_of_mem_erase mem), requested⟩
  | receive e rest' queued idle => simp [next] at idle
  | deliver y rest' next' empty =>
    rw [next] at next'
    obtain ⟨rfl, -⟩ := List.cons.inj next'
    exact absurd full empty
  | shutdown ctxErr idle => simp [next] at idle

/-- **A loop that waits on a channel nobody reads waits for good.** When the loop's next
send goes to a request whose channel still holds a value and whose client has returned,
then in every run from there the loop makes no send: it is still to make the same ones,
no value is put on any channel, and the queue only grows, so no request enqueued later is
ever answered. -/
theorem writer_blocked_for_good (reach : WriterReachable io cfg s) {x : Nat × Option Error}
    {rest : List (Nat × Option Error)} (next : s.pending = x :: rest) (full : x.1 ∈ s.unread.map Prod.fst)
    (gone : x.1 ∉ s.waiting) (later : Relation.ReflTransGen (WriterStep io cfg) s s') :
    s'.pending = s.pending ∧ s'.world.sent = s.world.sent ∧ s.queued <+: s'.queued := by
  have requested : x.1 ∈ s.requests := (reach.inv io cfg).repliesToRequests x (by simp [next])
  suffices kept : s'.pending = s.pending ∧ s'.world.sent = s.world.sent ∧ s.queued <+: s'.queued ∧
      x.1 ∈ s'.unread.map Prod.fst ∧ x.1 ∉ s'.waiting ∧ x.1 ∈ s'.requests from ⟨kept.1, kept.2.1, kept.2.2.1⟩
  induction later with
  | refl => exact ⟨rfl, rfl, List.prefix_refl _, full, gone, requested⟩
  | tail _ step ih =>
    obtain ⟨pending, sent, queued, full', gone', requested'⟩ := ih
    obtain ⟨pending₂, sent₂, queued₂, full₂, gone₂, requested₂⟩ :=
      step.blocked io cfg (pending.trans next) full' gone' requested'
    exact ⟨pending₂.trans pending, sent₂.trans sent, queued.trans queued₂, full₂, gone₂, requested₂⟩

end Lifecycle

/-- Request 1 of the sample user, its context ended. -/
def cancelledElement : Element := { sampleElement 1 "one" with ctx := { sampleContext with Err := some .canceled } }

/-- Requests 1 and 2 are queued and request 1's context ends. The loop receives it and
sends its two values, its client reading the first; then the loop shuts down with request
2 still queued. -/
def twoRequestsRun : WriterSystem :=
  let s := (((WriterSystem.init (sampleWorld [] [])).enqueue (sampleElement 1 "one")).enqueue
    (sampleElement 2 "two")).cancel 1 .canceled
  let s := s.receive sampleCollaborators sampleConfig cancelledElement [sampleElement 2 "two"]
  let s := (s.deliver (1, some .canceled) [(1, panicValue)]).read (1, some .canceled)
  (s.deliver (1, panicValue) []).shutdown .canceled

theorem twoRequestsRun_reachable : WriterReachable sampleCollaborators sampleConfig twoRequestsRun := by
  refine .step ?_ (.shutdown _ rfl rfl)
  refine .step ?_ (.deliver _ _ rfl ?_)
  refine .step ?_ (.read _ ?_ ?_)
  refine .step ?_ (.deliver _ _ rfl nofun)
  refine .step ?_ (.receive _ _ rfl rfl rfl)
  refine .step ?_ (.cancel 1 .canceled)
  refine .step ?_ (.enqueue _ ?_ rfl rfl)
  refine .step (.init _) (.enqueue _ nofun rfl rfl)
  all_goals decide

theorem twoRequestsRun_replies :
    WriterReachable sampleCollaborators sampleConfig twoRequestsRun ∧
    (∀ x ∈ twoRequestsRun.world.sent ++ twoRequestsRun.pending, x.1 ∈ twoRequestsRun.requests) ∧
    (∀ id ∈ twoRequestsRun.requests, twoRequestsRun.replies id =
      if id ∈ twoRequestsRun.queued then 0 else if id ∈ twoRequestsRun.receivedDone then 2 else 1) ∧
    (twoRequestsRun.closed = true → ∀ id ∈ twoRequestsRun.requests, 1 ≤ twoRequestsRun.replies id) ∧
    (∀ x rest, twoRequestsRun.pending = x :: rest → x.1 ∈ twoRequestsRun.unread.map Prod.fst →
      x.1 ∈ twoRequestsRun.receivedDone ∧ x.2 = panicValue ∧ rest = []) :=
  ⟨twoRequestsRun_reachable, writer_replies sampleCollaborators sampleConfig twoRequestsRun_reachable⟩

/-- Request 1's context ends while it waits. The loop receives it and puts its context's
error in its channel, and its client returns without reading. -/
def blockedRun : WriterSystem :=
  let s := (((WriterSystem.init (sampleWorld [] [])).enqueue (sampleElement 1 "one")).cancel 1 .canceled).receive
    sampleCollaborators sampleConfig cancelledElement []
  (s.deliver (1, some .canceled) [(1, panicValue)]).giveUp 1

theorem blockedRun_reachable : WriterReachable sampleCollaborators sampleConfig blockedRun := by
  refine .step ?_ (.giveUp 1 ?_ ?_)
  refine .step ?_ (.deliver _ _ rfl nofun)
  refine .step ?_ (.receive _ _ rfl rfl rfl)
  refine .step ?_ (.cancel 1 .canceled)
  refine .step (.init _) (.enqueue _ nofun rfl rfl)
  all_goals decide

/-- The loop of `blockedRun` waits for good to send request 1 the panic error: a request
2 enqueued after it stays in the queue with no value. -/
theorem blocked_writer_run :
    WriterReachable sampleCollaborators sampleConfig blockedRun ∧ blockedRun.pending = [(1, panicValue)] ∧
      1 ∈ blockedRun.unread.map Prod.fst ∧ 1 ∉ blockedRun.waiting ∧
      Relation.ReflTransGen (WriterStep sampleCollaborators sampleConfig) blockedRun
        (blockedRun.enqueue (sampleElement 2 "two")) ∧
      (blockedRun.enqueue (sampleElement 2 "two")).pending = blockedRun.pending ∧
      (blockedRun.enqueue (sampleElement 2 "two")).world.sent = blockedRun.world.sent ∧
      blockedRun.queued <+: (blockedRun.enqueue (sampleElement 2 "two")).queued := by
  have later : Relation.ReflTransGen (WriterStep sampleCollaborators sampleConfig) blockedRun
      (blockedRun.enqueue (sampleElement 2 "two")) :=
    .single (.enqueue _ (by decide) rfl rfl)
  exact ⟨blockedRun_reachable, rfl, by decide, by decide, later,
    writer_blocked_for_good sampleCollaborators sampleConfig blockedRun_reachable rfl (by decide) (by decide) later⟩

end Kuberpult
