import Kuberpult.ArgoCd.AfterTransform
import Kuberpult.Auth.User

/-! The world the single writer goroutine acts on: the git repository (object database,
branch and remote-tracking references), the write queue, the result channels, the
webhook and the notifier. What the writer cannot decide itself is read from tapes: the
clock, the remote's answer to each call of the push action and to each fetch. A
statement over every world is therefore a statement over every clock and every
behaviour of the remote, other writers' pushes included. -/
namespace Kuberpult

/-- Time, as `time.Now()` returns it. -/
abbrev Time := Nat

/-- Go's `git.Signature`. -/
structure Signature where
  Name : GoString
  Email : GoString
  When : Time
  deriving DecidableEq, Repr

/-- A commit object: its tree, its parent (none for the first commit of a branch), its
message, author and committer. -/
structure Commit where
  tree : TreeFS
  parent : Option Oid
  message : String
  author : Signature
  committer : Signature

/-- An application whose manifests changed in an environment, `AppEnv`. -/
structure AppEnv where
  App : String
  Env : String
  deriving DecidableEq, Repr

/-- An environment whose Argo CD root application was deleted, `RootApp`. -/
structure RootApp where
  Env : String
  deriving DecidableEq, Repr

/-- The commits before and after a change, `CommitIds`. -/
structure CommitIds where
  Previous : Option Oid
  Current : Oid
  deriving DecidableEq, Repr

/-- A change-set, `TransformerResult`. -/
structure TransformerResult where
  ChangedApps : List AppEnv
  DeletedRootApps : List RootApp
  Commits : Option CommitIds
  deriving DecidableEq, Repr

/-- What a transformer sees of its request: the context, with the time the writer started
applying the request's transformers (`withTimeNow`). -/
structure TransformContext where
  ctx : Context
  now : Time

/-- A transformer (`repository.Transformer`): from the context and the state, a commit
message, a change-set and the tree after its writes; or an error. -/
structure Transformer where
  Transform : TransformContext → State → Except Error (String × Option TransformerResult × TreeFS)

/-- An element of the write queue: the request's context, its transformers, and its
result channel, which `id` names. -/
structure Element where
  id : Nat
  ctx : Context
  transformers : List Transformer

/-- One call of the push action: the reference updates the remote reports to the
callback during the call, the error the call returns, and whether the back-off, asked
after a failed call, has spent its time budget and stops. -/
structure PushAttempt where
  updates : List (String × String)
  error : Option Error
  stop : Bool
  deriving DecidableEq, Repr

/-- What a fetch of the branch gets. -/
inductive FetchOutcome where
  /-- The fetch failed. -/
  | failed (err : Error)
  /-- The fetch brought these commits; the remote's branch points to the object id, or
  the remote has no such branch. -/
  | fetched (objects : List Commit) (remoteHead : Option Oid)

/-- Go's `changeInfo`. -/
structure ChangeInfo where
  payloadBefore : String
  payloadAfter : String
  deriving DecidableEq, Repr

/-- Go's webhook `commit`. -/
structure WebhookCommit where
  Added : List String
  Modified : List String
  Removed : List String
  deriving DecidableEq, Repr

/-- Go's `ArgoWebhookData`, the payload of a push event sent to Argo CD. -/
structure ArgoWebhookData where
  htmlUrl : String
  revision : String
  change : ChangeInfo
  defaultBranch : String
  Commits : List WebhookCommit
  deriving DecidableEq, Repr

/-- Everything the writer reads and changes. -/
structure World where
  /-- The object database: the commit with object id `i` is at position `i`. -/
  odb : List Commit
  /-- The branch `refs/heads/<branch>`. -/
  head : Option Oid
  /-- The remote-tracking reference `refs/remotes/origin/<branch>`. -/
  tracking : Option Oid
  /-- The elements waiting in the queue channel. -/
  queue : List Element
  /-- Every value put on a result channel, with the element it was sent to. -/
  sent : List (Nat × Option Error)
  /-- The payloads handed to Argo CD's webhook. -/
  webhooks : List ArgoWebhookData
  /-- How often `notify.Notify()` signalled the subscribers. -/
  notifications : Nat
  /-- What `time.Now()` returns, reading after reading. -/
  clock : List Time
  /-- The remote's answers to the calls of the push action, in order. -/
  pushes : List PushAttempt
  /-- The remote's answers to the fetches, in order. -/
  fetches : List FetchOutcome
  /-- Argo CD's answers to the webhook's requests, in order: the HTTP status, or none when
  a request could not be sent. -/
  argoAnswers : List (Option Nat)

namespace World

variable (w : World)

/-- Read the clock. -/
def readClock : Time × World := (w.clock.headD 0, { w with clock := w.clock.tail })

/-- Put a value on an element's result channel. -/
def send (id : Nat) (value : Option Error) : World := { w with sent := w.sent ++ [(id, value)] }

/-- The commit an object id names. -/
def lookup (oid : Oid) : Option Commit := w.odb[oid.index]?

/-- Store a commit and point the branch to it (`CreateCommitFromIds` with the branch as
the reference to update). -/
def createCommit (c : Commit) : Oid × World :=
  (⟨w.odb.length⟩, { w with odb := w.odb ++ [c], head := some ⟨w.odb.length⟩ })

@[simp] theorem readClock_snd : w.readClock.2 = { w with clock := w.clock.tail } := rfl

@[simp] theorem send_sent (id : Nat) (value : Option Error) :
    (w.send id value).sent = w.sent ++ [(id, value)] := rfl

@[simp] theorem createCommit_fst (c : Commit) : (w.createCommit c).1 = ⟨w.odb.length⟩ := rfl

@[simp] theorem createCommit_snd (c : Commit) :
    (w.createCommit c).2 = { w with odb := w.odb ++ [c], head := some ⟨w.odb.length⟩ } := rfl

end World

end Kuberpult
