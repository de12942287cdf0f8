import Kuberpult.Writer.ApplyTransformers

/-! The writer loop (`repository.ProcessQueueOnce` and what it calls): take the first
element and every ready one from the queue, apply them with one fetch-and-reset allowed
for an invalid-JSON error, push under back-off, recover once from a non-fast-forward
rejection by fetch, reset, re-apply and push, then call the webhook and the notifier and
send the deferred result to every element left. Go's `defer` that sends the result is
`finish`, applied at every `return`. -/
namespace Kuberpult

section Writer

variable (io : Collaborators) (cfg : RepositoryConfig)

/-! ## Applying a batch -/

/-- How a pass of `applyElements`' loop ends. -/
inductive PassOutcome where
  /-- The loop went through the elements: the ones left, and the combined change-set. -/
  | done (elements : List Element) (changes : TransformerResult)
  /-- An element failed with `invalidJson` while a fetch-and-reset was allowed: the
  elements of the pass at that point, the failing one included, and its context. -/
  | invalid (elements : List Element) (ctx : Context)

/-- The loop of `applyElements` at index `i`: `kept` are the elements before `i`, all
applied, and `rest` the elements from `i` on. A failing element gets its error on its
result channel and is removed, `append(elements[:i], elements[i+1:]...)`. -/
def applyLoop (allowFetchAndReset : Bool) (kept : List Element) (changes : TransformerResult) :
    List Element → World → PassOutcome × World
  | [], w => (.done kept changes, w)
  | e :: rest, w =>
    match ApplyTransformers io cfg e.ctx e.transformers w with
    | (.ok subChanges, w) => applyLoop allowFetchAndReset (kept ++ [e]) (changes.Combine (some subChanges)) rest w
    | (.error applyErr, w) =>
      if applyErr.Is .invalidJson && allowFetchAndReset then (.invalid (kept ++ e :: rest) e.ctx, w)
      else applyLoop allowFetchAndReset kept changes rest (w.send e.id (some applyErr))

/-- Read the fetch tape; a tape that ran out answers like an unreachable remote. -/
def World.nextFetch (w : World) : FetchOutcome × World :=
  (w.fetches.headD (.failed (.io "fetch: no answer")), { w with fetches := w.fetches.tail })

/-- The error of looking up the zero object id, which `FetchAndReset` does when the remote
has no branch and no remote-tracking reference was ever fetched. -/
def zeroLookupError : Error :=
  .git .notFound "object not found - no match for id (0000000000000000000000000000000000000000)"

/-- Go's `repository.FetchAndReset(ctx)`: fetch the branch into the remote-tracking
reference, point the branch to it, and reset to its commit. -/
def FetchAndReset (w : World) : Option Error × World :=
  match w.nextFetch with
  | (.failed err, w) => (some (.internal err), w)
  | (.fetched objects remoteHead, w) =>
    let w := { w with odb := w.odb ++ objects, tracking := remoteHead.orElse fun _ => w.tracking }
    match w.tracking with
    | none => (some zeroLookupError, w)
    | some rev =>
      let w := { w with head := some rev }
      match w.lookup rev with
      | none => (some (.git .notFound ("object not found - no match for id " ++ toString rev)), w)
      | some _ => (none, w)

/-- Go's `repository.applyElements(elements, allowFetchAndReset)`. Its recursive call
`applyElements(elements, false)` is unfolded once: with resets disallowed the loop never
stops early (`applyLoop_done`). The change-set returned with an error is Go's `nil`,
which no caller reads; it is the empty one here. -/
def applyElements (elements : List Element) (allowFetchAndReset : Bool) (w : World) :
    (List Element × Option Error × TransformerResult) × World :=
  match applyLoop io cfg allowFetchAndReset [] .empty elements w with
  | (.done elements changes, w) => ((elements, none, changes), w)
  | (.invalid elements _, w) =>
    match FetchAndReset w with
    | (some err, w) => ((elements, some err, .empty), w)
    | (none, w) =>
      match applyLoop io cfg false [] .empty elements w with
      | (.done elements changes, w) => ((elements, none, changes), w)
      | (.invalid elements _, w) => ((elements, none, .empty), w)

/-! ## Draining the queue -/

/-- The loop of `drainQueue` over the elements ready in the queue channel: a cancelled
element gets its context's error and is dropped. -/
def drainFrom : List Element → List Element → World → List Element × World
  | [], elements, w => (elements, w)
  | f :: rest, elements, w =>
    match f.ctx.Err with
    | some err => drainFrom rest elements (w.send f.id (some err))
    | none => drainFrom rest (elements ++ [f]) w

/-- Go's `repository.drainQueue()`: every element ready in the queue channel. -/
def drainQueue (w : World) : List Element × World := drainFrom w.queue [] { w with queue := [] }

/-! ## Pushing -/

/-- The callback a `PushUpdateFunc` makes for the branch: how one reported reference
update changes the flag it writes. -/
abbrev PushUpdateFunc := String → String × String → Bool → Bool

/-- Go's `defaultPushUpdate(branch, &success)`: each report sets the flag to whether it is
the branch with an empty status, overwriting what earlier reports set. -/
def defaultPushUpdate : PushUpdateFunc := fun branch update _ =>
  decide (update.1 = "refs/heads/" ++ branch) && decide (update.2 = "")

/-- How many times `defaultBackOffProvider`'s back-off retries (`WithMaxRetries(eb, 6)`). -/
def maxPushRetries : Nat := 6

/-- Read the push tape; a tape that ran out answers like an unreachable remote. -/
def World.nextPush (w : World) : PushAttempt × World :=
  (w.pushes.headD ⟨[], some (.io "push: no answer"), true⟩, { w with pushes := w.pushes.tail })

/-- Go's `repository.Push(ctx, pushAction)`, `backoff.Retry` over the push action: each
call's reports go to the callback, which updates the flag; a success ends the loop, a
non-fast-forward error is permanent, and any other error is retried until the retries
are spent or the back-off's time budget is. The result is the last call's error. -/
def Push (callback : String × String → Bool → Bool) : Nat → Bool → World → Option Error × Bool × World
  | retries, flag, w =>
    let (attempt, w) := w.nextPush
    let flag := attempt.updates.foldl (fun flag update => callback update flag) flag
    match attempt.error with
    | none => (none, flag, w)
    | some err =>
      if err.IsNonFastForward then (some err, flag, w)
      else match retries with
        | 0 => (some err, flag, w)
        | retries + 1 => if attempt.stop then (some err, flag, w) else Push callback retries flag w

/-! ## After the push -/

/-- The manifest file Argo CD watches for an application in an environment. -/
def manifestFilename (change : AppEnv) : String :=
  "environments/" ++ change.Env ++ "/applications/" ++ change.App ++ "/manifests/manifests.yaml"

/-- The root application file of an environment. -/
def rootAppFilename (change : RootApp) : String := "argocd/v1alpha1/" ++ change.Env ++ ".yaml"

/-- The payload `sendWebhookToArgoCd` builds from a change-set. The commit ids are never
missing where the writer calls it: an empty batch returns before. -/
def argoWebhookData (changes : TransformerResult) : ArgoWebhookData where
  htmlUrl := cfg.WebURL
  revision := "refs/heads/" ++ cfg.Branch
  change :=
    { payloadBefore := match changes.Commits with
        | some { Previous := some previous, .. } => toString previous
        | _ => ""
      payloadAfter := match changes.Commits with
        | some ids => toString ids.Current
        | none => "" }
  defaultBranch := cfg.Branch
  Commits := [⟨[], changes.ChangedApps.map manifestFilename, changes.DeletedRootApps.map rootAppFilename⟩]

/-- How many requests `sendWebhookToArgoCd` makes at most (`maxArgoRequests`). -/
def maxArgoRequests : Nat := 3

/-- Read Argo CD's answer to a webhook request; a tape that ran out answers like an
unreachable server. -/
def World.nextArgoAnswer (w : World) : Option Nat × World :=
  (w.argoAnswers.headD none, { w with argoAnswers := w.argoAnswers.tail })

/-- The retry loop of `repository.sendWebhookToArgoCd(ctx, logger, changes)`: the payload
is posted until a request gets an answer other than a server error, at most
`maxArgoRequests` times; the outcome is only logged. -/
def webhookAttempts (data : ArgoWebhookData) : Nat → World → World
  | 0, w => w
  | tries + 1, w =>
    match { w with webhooks := w.webhooks ++ [data] }.nextArgoAnswer with
    | (some status, w) => if 500 ≤ status then webhookAttempts data tries w else w
    | (none, w) => w

/-- `doWebhookPostRequest(ctx, data, repoConfig, retryCounter)`, given whether Go's URL
parser accepts a URL. The error of `http.NewRequest` is not checked: for a URL the parser
rejects, the request is nil and `req.Header.Set` panics (`none`) before anything is sent.
Otherwise the payload is posted and Argo CD's answer read. -/
def doWebhookPostRequest (urlParses : String → Bool) (data : ArgoWebhookData) (w : World) :
    Option (Option Nat × World) :=
  if urlParses (cfg.ArgoWebhookUrl ++ "/api/webhook") then some { w with webhooks := w.webhooks ++ [data] }.nextArgoAnswer
  else none

/-- The retry loop of `repository.sendWebhookToArgoCd` with `tries` requests left, panic
included: it posts again only after a server error. -/
def webhookTries (urlParses : String → Bool) (data : ArgoWebhookData) : Nat → World → Option World
  | 0, w => some w
  | tries + 1, w =>
    match doWebhookPostRequest cfg urlParses data w with
    | none => none
    | some (some status, w) => if 500 ≤ status then webhookTries urlParses data tries w else some w
    | some (none, w) => some w

/-- `repository.sendWebhookToArgoCd(ctx, logger, changes)`: `none` when it panics. -/
def sendWebhookToArgoCd (urlParses : String → Bool) (changes : TransformerResult) (w : World) : Option World :=
  webhookTries cfg urlParses (argoWebhookData cfg changes) maxArgoRequests w

/-- The deferred send of `ProcessQueueOnce`: every element left gets the final error. -/
def finish (elements : List Element) (err : Option Error) (w : World) : World :=
  elements.foldl (fun w el => w.send el.id err) w

/-- The part of `ProcessQueueOnce` after the push (`PostPush`): the webhook when one is
configured, the notifier, then the deferred send. The webhook is `sendWebhookToArgoCd` for
a URL Go's parser accepts (`webhookTries_of_parses`). -/
def postPush (elements : List Element) (err : Option Error) (changes : TransformerResult)
    (w : World) : World :=
  let w := if cfg.ArgoWebhookUrl ≠ "" then webhookAttempts (argoWebhookData cfg changes) maxArgoRequests w else w
  finish elements err { w with notifications := w.notifications + 1 }

/-- The error for a push the remote refused for another reason than a diverged branch. -/
def noWriteAccessError : Error :=
  .grpcPublic (.text ("could not push to manifest repository '" ++ cfg.URL ++ "' on branch '" ++
    cfg.Branch ++ "' - this indicates that the ssh key does not have write access"))

/-- The error for a push whose branch update the remote did not report as done. -/
def branchProtectionError : Error :=
  .text ("failed to push - this indicates that branch protection is enabled in '" ++ cfg.URL ++
    "' on branch '" ++ cfg.Branch ++ "'")

/-- Go's `repository.ProcessQueueOnce(ctx, e, callback, pushAction)`, with the push
action's calls on the world's push tape. -/
def ProcessQueueOnce (e : Element) (callback : PushUpdateFunc) (w : World) : World :=
  match e.ctx.Err with
  | some ctxErr => finish [e] (some (.text "Panic")) (w.send e.id (some ctxErr))
  | none =>
    let (drained, w) := drainQueue w
    match applyElements io cfg (e :: drained) true w with
    | ((elements, some err, _), w) => finish elements (some err) w
    | ((elements, none, changes), w) =>
      if elements.isEmpty then finish elements none w
      else
        match Push (callback cfg.Branch) maxPushRetries true w with
        | (none, pushSuccess, w) =>
          if pushSuccess then postPush cfg elements none changes w
          else postPush cfg elements (some (branchProtectionError cfg)) changes w
        | (some err, pushSuccess, w) =>
          if err.IsNonFastForward then
            match FetchAndReset w with
            | (some err, w) => finish elements (some err) w
            | (none, w) =>
              match applyElements io cfg elements false w with
              | ((elements, some err, _), w) => finish elements (some err) w
              | ((elements, none, _), w) =>
                if elements.isEmpty then finish elements none w
                else
                  match Push (callback cfg.Branch) maxPushRetries pushSuccess w with
                  | (some pushErr, _, w) => postPush cfg elements (some (.internal pushErr)) changes w
                  | (none, _, w) => postPush cfg elements none changes w
          else if err.Is .deadlineExceeded || err.Is .canceled then
            postPush cfg elements (some (.grpcCanceled err)) changes w
          else postPush cfg elements (some (noWriteAccessError cfg)) changes w

end Writer

/-! ## A fixed setting for concrete runs -/

/-- Collaborators of a writer in bootstrap mode without a configuration file: no
environments, no manifests to render, metrics that never fail. -/
def sampleCollaborators : Collaborators where
  hostFile _ := .error (.notExist "/etc/kuberpult/environment_configs.json")
  decodeConfig _ := .ok .zero
  unmarshalConfigs _ := .ok ∅
  render _ _ _ _ _ := .ok ∅
  updateDatadogMetrics _ := .ok ()

/-- A writer of the branch `master` in bootstrap mode, with the Argo CD webhook configured. -/
def sampleConfig : RepositoryConfig where
  URL := "manifests.git"
  Branch := "master"
  CommitterEmail := goString "kuberpult@example.com"
  CommitterName := goString "kuberpult"
  BootstrapMode := true
  EnvironmentConfigsPath := "/etc/kuberpult/environment_configs.json"
  ArgoWebhookUrl := "argocd-server"
  WebURL := "argocd"

/-- The context of a request by one user that is not done. -/
def sampleContext : Context := ⟨none, some ⟨goString "author@example.com", goString "author", none⟩, [], none⟩

/-- A transformer that changes no file and reports the application it deployed. -/
def deployTransformer (app : String) : Transformer :=
  ⟨fun _ s => .ok ("deploy " ++ app, some ⟨[⟨app, "production"⟩], [], none⟩, s.Filesystem)⟩

/-- A request of the sample user that deploys one application. -/
def sampleElement (id : Nat) (app : String) : Element := ⟨id, sampleContext, [deployTransformer app]⟩

/-- An empty repository, an empty queue, and the remote's answers. -/
def sampleWorld (pushes : List PushAttempt) (fetches : List FetchOutcome) : World :=
  ⟨[], none, none, [], [], [], 0, [], pushes, fetches, []⟩

/-- A push the remote accepts and reports as done for the branch. -/
def acceptedPush : PushAttempt := ⟨[("refs/heads/master", "")], none, false⟩

end Kuberpult
