import Mathlib.Data.List.AList
import Mathlib.Data.List.Sort
import Kuberpult.Fs.TreeFs

/-! The state view (`repository.State`): read accessors over the tree of one commit.
Everything the accessors call outside this repository's source (the host's files, Go's
JSON decoder, Argo CD's renderer, the metrics update) is a field of `Collaborators`, so
every statement below holds for each of their behaviours. -/
namespace Kuberpult

/-- A commit's object id; the object database keeps commits at these positions. -/
structure Oid where
  index : Nat
  deriving DecidableEq, Repr

/-- The text of an object id, Go's `git.Oid.String()`. -/
instance : ToString Oid := ⟨fun oid => toString oid.index⟩

/-- Modelled from the spec: `config.EnvironmentConfigArgoCd`, an environment's Argo CD
settings, which only `argocd.Render` reads. -/
structure EnvironmentConfigArgoCd where
  settings : String
  deriving DecidableEq, Repr

/-- Modelled from the spec: `config.EnvironmentConfig`, with the part the modelled code reads. -/
structure EnvironmentConfig where
  ArgoCd : Option EnvironmentConfigArgoCd
  deriving DecidableEq, Repr

/-- The zero value of an environment configuration. -/
def EnvironmentConfig.zero : EnvironmentConfig := ⟨none⟩

/-- A Go map from environment names to configurations. -/
abbrev ConfigMap := AList (fun _ : String => EnvironmentConfig)

/-- The application data `argocd.Render` receives for one environment. -/
structure AppData where
  AppName : String
  TeamName : String
  deriving DecidableEq, Repr

/-- Modelled from the spec: the Argo CD API versions manifests are rendered for; the spec
names one, and the writer's webhook hard-codes it. -/
inductive ApiVersion where
  | v1alpha1
  deriving DecidableEq, Repr

/-- The directory name of an API version. -/
def ApiVersion.text : ApiVersion → String
  | .v1alpha1 => "v1alpha1"

/-- The state of the manifest repository at one commit (`repository.State`). -/
structure State where
  Filesystem : TreeFS
  Commit : Option Oid
  BootstrapMode : Bool
  EnvironmentConfigsPath : String

/-- What the modelled code calls that this repository's source does not define. -/
structure Collaborators where
  /-- The host's `ioutil.ReadFile`. -/
  hostFile : String → Except Error String
  /-- Go's `json.NewDecoder(file).Decode(&config)` for one environment configuration. -/
  decodeConfig : String → Except Error EnvironmentConfig
  /-- Go's `json.Unmarshal(buf, &result)` for the bootstrap configuration map. -/
  unmarshalConfigs : String → Except Error ConfigMap
  /-- Argo CD's `argocd.Render(URL, Branch, config, env, appData)`. -/
  render : String → String → EnvironmentConfig → String → List AppData →
    Except Error (AList fun _ : ApiVersion => String)
  /-- The package's `UpdateDatadogMetrics(state)`. -/
  updateDatadogMetrics : State → Except Error Unit

/-! ## Release numbers -/

/-- The value of a string of decimal digits. -/
def decimalValue (digits : List Char) : Nat :=
  digits.foldl (fun value c => 10 * value + (c.toNat - '0'.toNat)) 0

/-- The error `strconv.ParseUint` returns, a `*strconv.NumError`. -/
def numError (s reason : String) : Error :=
  .text ("strconv.ParseUint: parsing " ++ s.quote ++ ": " ++ reason)

/-- Go's `strconv.ParseUint(s, 10, 64)`: one or more decimal digits, without sign, of a
value below `2^64`. -/
def ParseUint (s : String) : Except Error UInt64 :=
  if s.data ≠ [] ∧ s.data.all Char.isDigit then
    if decimalValue s.data < UInt64.size then .ok (UInt64.ofNat (decimalValue s.data))
    else .error (numError s "value out of range")
  else .error (numError s "invalid syntax")

/-- The package's `names(fs, path)`: the entry names of a directory, in listed order. -/
def names (fs : TreeFS) (p : Path) : Except Error (List String) :=
  (fs.ReadDir p).map (List.map FileInfo.name)

/-- The values of the names that parse as release numbers, in order. -/
def releaseNumbers (ns : List String) : List UInt64 :=
  ns.filterMap fun n => (ParseUint n).toOption

instance UInt64.isTotal_le : IsTotal UInt64 (· ≤ ·) := ⟨UInt64.le_total⟩

instance UInt64.isTrans_le : IsTrans UInt64 (· ≤ ·) := ⟨fun _ _ _ => UInt64.le_trans⟩

/-- Go's `sort.Slice(result, func(i, j int) bool { return result[i] < result[j] })`.
Numbers have one ascending arrangement, which any sort finds; insertion sort computes it. -/
def sortAscending (values : List UInt64) : List UInt64 :=
  values.insertionSort (· ≤ ·)

/-- The directory of an application's releases. -/
def releasesDirectory (application : String) : Path := join ["applications", application, "releases"]

/-- Go's `State.Releases(application)`. -/
def State.Releases (s : State) (application : String) : Except Error (List UInt64) :=
  (s.Filesystem.ReadDir (releasesDirectory application)).map fun entries =>
    releaseNumbers (entries.map FileInfo.name)

/-- Go's `State.GetApplicationReleases(application)`. -/
def State.GetApplicationReleases (s : State) (application : String) : Except Error (List UInt64) :=
  (names s.Filesystem (releasesDirectory application)).map fun ns =>
    sortAscending (releaseNumbers ns)

/-! ## Applications and environments -/

/-- Go's `State.GetEnvironmentApplications(environment)`. -/
def State.GetEnvironmentApplications (s : State) (environment : String) : Except Error (List String) :=
  names s.Filesystem (join ["environments", environment, "applications"])

/-- Modelled from the spec: the package's `applicationDirectory(fs, application)`,
the directory `applications/<app>`. -/
def applicationDirectory (application : String) : Path := join ["applications", application]

/-- The reading `GetApplicationTeamOwner` and `GetApplicationSourceRepoUrl` share: an
optional file of the application's directory, empty when missing. -/
def State.readApplicationFile (s : State) (application file message : String) : Except Error String :=
  match s.Filesystem.readFile (join (applicationDirectory application ++ [file])) with
  | .ok content => .ok content
  | .error err =>
    if err.Is .errNotExist then .ok ""
    else .error (.wrap (message ++ application ++ " found: ") err)

/-- Go's `State.GetApplicationTeamOwner(application)`: the `team` file, empty when missing. -/
def State.GetApplicationTeamOwner (s : State) (application : String) : Except Error String :=
  s.readApplicationFile application "team" "error while reading team owner file for application "

/-- Go's `State.readSymlink(environment, application, symlinkName)`: the release a link
of an application's directory points to, `none` when there is no link. -/
def State.readSymlink (s : State) (environment application symlinkName : String) :
    Except Error (Option UInt64) :=
  let version := join ["environments", environment, "applications", application, symlinkName]
  match s.Filesystem.Readlink version with
  | .error err =>
    if err.Is .errNotExist then .ok none
    else .error (.wrap ("failed reading symlink " ++ version.text.quote ++ ": ") err)
  | .ok lnk =>
    let target := join ["environments", environment, "applications", application, lnk]
    match s.Filesystem.Stat target with
    | .error err => .error (.wrap ("failed stating " ++ target.text.quote ++ ": ") err)
    | .ok stat => (ParseUint stat.name).map some

/-- Go's `State.GetEnvironmentApplicationVersion(environment, application)`. -/
def State.GetEnvironmentApplicationVersion (s : State) (environment application : String) :
    Except Error (Option UInt64) :=
  s.readSymlink environment application "version"

/-! ## Environment configurations -/

/-- Modelled from the spec: the package's `wrapFileError(err, path, message)`, which
keeps the error it wraps visible to `errors.Is`. -/
def wrapFileError (err : Error) (p : Path) (message : String) : Error :=
  .wrap (message ++ " " ++ p.text ++ ": ") err

/-- Go's `decodeJsonFile(fs, path, out)`: `Open` follows links, the decoder reads the file. -/
def decodeJsonFile {α : Type} (decode : String → Except Error α) (fs : TreeFS) (p : Path) :
    Except Error α :=
  match fs.follow maxSymlinkHops p with
  | .error err => .error (wrapFileError err p "could not decode json file")
  | .ok (.file content) => decode content
  | .ok _ => .error (.io (p.text ++ ": is a directory"))

/-- The configuration file of an environment. -/
def configFile (environment : String) : Path := join ["environments", environment, "config.json"]

/-- One iteration of `GetEnvironmentConfigs`' loop over `environments/`: a missing
`config.json` gives the zero configuration, any other failure is `invalidJson`. -/
def addEnvironmentConfig (io : Collaborators) (fs : TreeFS) (result : ConfigMap) (env : FileInfo) :
    Except Error ConfigMap :=
  match decodeJsonFile io.decodeConfig fs (configFile env.name) with
  | .ok config => .ok (result.insert env.name config)
  | .error err =>
    if err.Is .errNotExist then .ok (result.insert env.name .zero)
    else .error (.wrap ((configFile env.name).text ++ " : ") .invalidJson)

/-- Go's `State.GetEnvironmentConfigs()`: in bootstrap mode the host's configuration
file, a missing file giving no environments; otherwise `environments/*/config.json`. -/
def State.GetEnvironmentConfigs (io : Collaborators) (s : State) : Except Error ConfigMap :=
  if s.BootstrapMode then
    match io.hostFile s.EnvironmentConfigsPath with
    | .error err => if err.Is .errNotExist then .ok ∅ else .error err
    | .ok buf => io.unmarshalConfigs buf
  else
    match s.Filesystem.ReadDir ["environments"] with
    | .error err => .error err
    | .ok envs => envs.foldlM (addEnvironmentConfig io s.Filesystem) ∅

end Kuberpult
