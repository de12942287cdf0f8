import Mathlib.Data.String.Basic
import Kuberpult.State.Basic
import Kuberpult.Auth.Base64

/-! The derived Argo CD output: after the transformers of a request ran, `afterTransform`
renders, for every environment with an Argo CD configuration, the applications deployed
to it into `argocd/<apiVersion>/<env>.yaml`. The loops of the Go code are folds over
their collections, one named function per loop body. -/
namespace Kuberpult

/-- The repository configuration (`RepositoryConfig`), with the fields the modelled code
reads, after `New` filled in its defaults. -/
structure RepositoryConfig where
  URL : String
  Branch : String
  CommitterEmail : GoString
  CommitterName : GoString
  BootstrapMode : Bool
  EnvironmentConfigsPath : String
  ArgoWebhookUrl : String
  WebURL : String

/-- Strings compare by their characters (`String.le_iff_toList_le`): deciding the order on
the characters lets a sort of concrete names evaluate. -/
instance decidableStringLE : @DecidableRel String (· ≤ ·) :=
  fun a b => decidable_of_iff (a.toList ≤ b.toList) String.le_iff_toList_le.symm

/-- Go's `sort.Strings(apps)`: names in ascending order; names of one directory are
distinct, so every sort arranges them the same way. -/
def sortStrings (apps : List String) : List String := apps.insertionSort (· ≤ ·)

/-- One iteration of `updateArgoCdApps`' loop over the sorted applications: the team is
read first, then an application whose version link is missing, dangling or `0` is left out. -/
def collectAppData (s : State) (env : String) (appData : List AppData) (appName : String) :
    Except Error (List AppData) :=
  match s.GetApplicationTeamOwner appName with
  | .error err => .error err
  | .ok team =>
    match s.GetEnvironmentApplicationVersion env appName with
    | .error err => if err.Is .errNotExist then .ok appData else .error err
    | .ok none => .ok appData
    | .ok (some version) => if version = 0 then .ok appData else .ok (appData ++ [⟨appName, team⟩])

/-- One iteration of `updateArgoCdApps`' loop over the rendered manifests. -/
def writeManifest (env : String) (fs : TreeFS) (manifest : Σ _ : ApiVersion, String) :
    Except Error TreeFS :=
  match fs.MkdirAll (join ["argocd", manifest.1.text]) with
  | .error err => .error err
  | .ok fs => fs.WriteFile (join ["argocd", manifest.1.text, env ++ ".yaml"]) manifest.2

/-- The first half of `updateArgoCdApps`, which only reads: the environment's
applications in sorted order, the data of each deployed one, and Argo CD's manifests
rendered from them. -/
def renderArgoCdApps (io : Collaborators) (cfg : RepositoryConfig) (s : State) (env : String)
    (config : EnvironmentConfig) : Except Error (AList fun _ : ApiVersion => String) :=
  match s.GetEnvironmentApplications env with
  | .error err => .error err
  | .ok apps =>
    match (sortStrings apps).foldlM (collectAppData s env) [] with
    | .error err => .error err
    | .ok appData => io.render cfg.URL cfg.Branch config env appData

/-- Go's `repository.updateArgoCdApps(ctx, state, env, config)`: the tree after the
environment's manifests are written. -/
def updateArgoCdApps (io : Collaborators) (cfg : RepositoryConfig) (s : State) (env : String)
    (config : EnvironmentConfig) : Except Error TreeFS :=
  match renderArgoCdApps io cfg s env config with
  | .error err => .error err
  | .ok manifests => manifests.entries.foldlM (writeManifest env) s.Filesystem

/-- One iteration of `afterTransform`'s loop over the environment configurations; the
state's filesystem is the one tree every iteration writes to. -/
def updateEnvironment (io : Collaborators) (cfg : RepositoryConfig) (s : State) (fs : TreeFS)
    (entry : Σ _ : String, EnvironmentConfig) : Except Error TreeFS :=
  if entry.2.ArgoCd.isSome then updateArgoCdApps io cfg { s with Filesystem := fs } entry.1 entry.2
  else .ok fs

/-- The loop of `afterTransform`, over the configurations in the order Go's map iteration
hands them out. -/
def updateEnvironments (io : Collaborators) (cfg : RepositoryConfig) (s : State)
    (order : List (Σ _ : String, EnvironmentConfig)) : Except Error TreeFS :=
  order.foldlM (updateEnvironment io cfg s) s.Filesystem

/-- Go's `repository.afterTransform(ctx, state)`: the state's tree after every Argo CD
environment's manifests are written. -/
def afterTransform (io : Collaborators) (cfg : RepositoryConfig) (s : State) : Except Error TreeFS :=
  match s.GetEnvironmentConfigs io with
  | .error err => .error err
  | .ok configs => updateEnvironments io cfg s configs.entries

end Kuberpult
