import Kuberpult.State.Basic
import Kuberpult.State.Json

/-! What `State.GetEnvironmentConfigs` reports when its two decoding collaborators are Go's
JSON readers. Outside bootstrap mode it reads `environments/<env>/config.json` of every
listed environment with the decoder, which reads the first JSON value of the file and
nothing after it. A missing file is the zero configuration, and the first file that
cannot be read for another reason stops the loop with `invalidJson`
(`foldlM_addEnvironmentConfig_eq`). In bootstrap mode it reads the host's file with
`Unmarshal`, which wants one value with only whitespace around it. A missing file is the
empty map, and a malformed one fails with the JSON package's own error, not with
`invalidJson`. Both readers thus depart from "a present document that is not one JSON
value is `invalidJson`" (`GetEnvironmentConfigs_malformed_accepted`): text after a
configuration file's first value is never read, and the bootstrap file's syntax error is
not wrapped. -/
namespace Kuberpult

section Configs

variable (configFromJSON : List Char → Option EnvironmentConfig)

/-- What `GetEnvironmentConfigs` makes of the configuration file of `env` outside bootstrap
mode, Go's decoder reading it: the configuration its first value decodes to; the zero
configuration when the file is missing; `none` when it cannot be read as a configuration
for another reason. -/
def configFileValue (fs : TreeFS) (env : String) : Option EnvironmentConfig :=
  match fs.follow maxSymlinkHops (configFile env) with
  | .error err => if err.Is .errNotExist then some .zero else none
  | .ok (.file content) => (Json.Decode configFromJSON content).toOption
  | .ok _ => none

/-- Why the configuration file of `env` cannot be read as a configuration, other than by
being missing: opening it fails for another reason (a loop of links), it is a directory,
or the first JSON value in it, after leading whitespace, is missing, malformed or not a
configuration. -/
inductive ConfigFileInvalid (fs : TreeFS) (env : String) : Prop
  | unopenable (err : Error) (failed : fs.follow maxSymlinkHops (configFile env) = .error err)
      (present : err.Is .errNotExist = false)
  | directory (isDir : fs.follow maxSymlinkHops (configFile env) = .ok .dir)
  | undecodable (content : String) (isFile : fs.follow maxSymlinkHops (configFile env) = .ok (.file content))
      (firstValue : ∀ n, Json.readValue content.data = .ok n → configFromJSON (content.data.take n) = none)

theorem configFileValue_eq_none_iff (fs : TreeFS) (env : String) :
    configFileValue configFromJSON fs env = none ↔ ConfigFileInvalid configFromJSON fs env := by
  unfold configFileValue
  constructor
  · intro unread
    split at unread
    · rename_i err failed
      exact .unopenable err failed (by simpa using unread)
    · rename_i content isFile
      refine .undecodable content isFile fun n read => ?_
      cases decoded : configFromJSON (content.data.take n) with
      | none => rfl
      | some config =>
        rw [(Json.Decode_ok_iff configFromJSON content config).2 ⟨n, read, decoded⟩] at unread
        cases unread
    · rename_i node notFile found
      cases node with
      | dir => exact .directory found
      | file content => exact absurd rfl (notFile content)
      | symlink target => exact absurd found (TreeFS.follow_ne_symlink _ _ _ target)
  · rintro (⟨err, failed, present⟩ | isDir | ⟨content, isFile, firstValue⟩)
    · simp [failed, present]
    · simp [isDir]
    · simp only [isFile]
      cases decoded : Json.Decode configFromJSON content with
      | error err => rfl
      | ok config =>
        obtain ⟨n, read, some⟩ := (Json.Decode_ok_iff configFromJSON content config).1 decoded
        rw [firstValue n read] at some
        cases some

variable {configFromJSON} {io : Collaborators}

/-- One iteration of the loop over `environments/`, with Go's decoder: the environment's
configuration goes in the map, or the loop stops with `invalidJson`. -/
theorem addEnvironmentConfig_eq (decoder : io.decodeConfig = Json.Decode configFromJSON) (fs : TreeFS)
    (result : ConfigMap) (env : FileInfo) :
    addEnvironmentConfig io fs result env =
      match configFileValue configFromJSON fs env.name with
      | some config => .ok (result.insert env.name config)
      | none => .error (.wrap ((configFile env.name).text ++ " : ") .invalidJson) := by
  unfold addEnvironmentConfig decodeJsonFile configFileValue
  rw [decoder]
  cases fs.follow maxSymlinkHops (configFile env.name) with
  | error err => by_cases missing : err.Is .errNotExist <;> simp [wrapFileError, missing]
  | ok node =>
    cases node with
    | file content =>
      dsimp only
      cases decoded : Json.Decode configFromJSON content with
      | ok config => rfl
      | error err =>
        obtain ⟨message, rfl⟩ := Json.Decode_error decoded
        rfl
    | dir => rfl
    | symlink target => rfl

/-- The loop over `environments/`, with Go's decoder: it stops with `invalidJson` at the
first listed environment whose configuration file cannot be read, and otherwise puts
every listed environment's configuration in the map, in listed order. -/
theorem foldlM_addEnvironmentConfig_eq (decoder : io.decodeConfig = Json.Decode configFromJSON) (fs : TreeFS)
    (envs : List FileInfo) (result : ConfigMap) :
    envs.foldlM (addEnvironmentConfig io fs) result =
      match envs.find? fun env => (configFileValue configFromJSON fs env.name).isNone with
      | some env => .error (.wrap ((configFile env.name).text ++ " : ") .invalidJson)
      | none => .ok (envs.foldl (fun m env => m.insert env.name ((configFileValue configFromJSON fs env.name).getD .zero))
          result) := by
  induction envs generalizing result with
  | nil => rfl
  | cons env envs ih =>
    rw [List.foldlM_cons, addEnvironmentConfig_eq decoder]
    cases value : configFileValue configFromJSON fs env.name with
    | none => simp [value, bind, Except.bind]
    | some config => simp [value, ih, bind, Except.bind]

/-- The map the loop builds holds, for every listed name, the value given for it. -/
theorem lookup_foldl_insert (f : String → EnvironmentConfig) (name : String) (envs : List FileInfo)
    (result : ConfigMap) :
    (envs.foldl (fun m env => m.insert env.name (f env.name)) result).lookup name =
      if envs.any (·.name == name) then some (f name) else result.lookup name := by
  induction envs generalizing result with
  | nil => simp
  | cons env envs ih =>
    rw [List.foldl_cons, ih]
    by_cases same : env.name = name
    · subst same
      simp
    · simp [same, AList.lookup_insert_ne (Ne.symm same)]

variable (configsFromJSON : List Char → Option ConfigMap)

/-- What `GetEnvironmentConfigs` reports with Go's JSON readers as `decodeConfig` and
`unmarshalConfigs`, for every state. Outside bootstrap mode it fails with an error in which
`errors.Is` finds `invalidJson` exactly when `environments/` is listed and the
configuration file of a listed environment cannot be read as one for a reason other than
its absence (`ConfigFileInvalid`); a map it returns holds for every listed environment
what its file reads as, the zero configuration when the file is missing. In bootstrap mode
a missing file gives the empty map, and a present file gives a map exactly when the file is
one well-formed JSON value with only whitespace around it, decoding to that map. -/
theorem GetEnvironmentConfigs_invalidJson (decoder : io.decodeConfig = Json.Decode configFromJSON)
    (unmarshal : io.unmarshalConfigs = Json.Unmarshal configsFromJSON) (s : State) :
    (s.BootstrapMode = false →
      ((∃ e, s.GetEnvironmentConfigs io = .error e ∧ e.Is .invalidJson) ↔
        ∃ envs, s.Filesystem.ReadDir ["environments"] = .ok envs ∧
          ∃ env ∈ envs, ConfigFileInvalid configFromJSON s.Filesystem env.name) ∧
      ∀ m, s.GetEnvironmentConfigs io = .ok m → ∃ envs, s.Filesystem.ReadDir ["environments"] = .ok envs ∧
        ∀ env ∈ envs, m.lookup env.name = configFileValue configFromJSON s.Filesystem env.name) ∧
    (s.BootstrapMode = true →
      (∀ err, io.hostFile s.EnvironmentConfigsPath = .error err → err.Is .errNotExist →
        s.GetEnvironmentConfigs io = .ok ∅) ∧
      ∀ buf, io.hostFile s.EnvironmentConfigsPath = .ok buf → ∀ m,
        (s.GetEnvironmentConfigs io = .ok m ↔ Json.Valid buf ∧ configsFromJSON buf.data = some m)) := by
  refine ⟨fun notBootstrap => ?_, fun bootstrap => ?_⟩
  · unfold State.GetEnvironmentConfigs
    rw [if_neg (by simp [notBootstrap])]
    cases listed : s.Filesystem.ReadDir ["environments"] with
    | error err =>
      refine ⟨⟨fun ⟨e, failed, invalid⟩ => ?_, fun ⟨_, ok, _⟩ => by cases ok⟩, fun _ ok => by cases ok⟩
      cases failed
      rcases TreeFS.ReadDir_error _ listed with rfl | rfl <;> cases invalid
    | ok envs =>
      simp only [foldlM_addEnvironmentConfig_eq decoder, Except.ok.injEq, exists_eq_left']
      cases found : envs.find? fun env => (configFileValue configFromJSON s.Filesystem env.name).isNone with
      | some env =>
        have unread : configFileValue configFromJSON s.Filesystem env.name = none := by
          simpa using List.find?_some found
        refine ⟨⟨fun _ => ⟨env, List.mem_of_find?_eq_some found, (configFileValue_eq_none_iff _ _ _).1 unread⟩,
          fun _ => ⟨_, rfl, rfl⟩⟩, fun _ failed => by cases failed⟩
      | none =>
        have allRead := List.find?_eq_none.1 found
        refine ⟨⟨fun ⟨_, failed, _⟩ => (by cases failed), fun ⟨env, mem, invalid⟩ => ?_⟩, fun m read => ?_⟩
        · have unread := (configFileValue_eq_none_iff _ _ _).2 invalid
          simpa [unread] using allRead env mem
        · cases read
          intro env mem
          obtain ⟨config, value⟩ := Option.ne_none_iff_exists'.1 (by simpa using allRead env mem)
          refine (lookup_foldl_insert (fun name => (configFileValue configFromJSON s.Filesystem name).getD .zero)
            env.name envs ∅).trans ?_
          rw [if_pos (List.any_eq_true.2 ⟨env, mem, by simp⟩)]
          simp [value]
  · unfold State.GetEnvironmentConfigs
    rw [if_pos bootstrap]
    refine ⟨fun err missing notExist => by rw [missing]; exact if_pos notExist, fun buf present m => ?_⟩
    rw [present, unmarshal]
    exact Json.Unmarshal_ok_iff _ _ _

/-- Where the reading departs from "a present document that is not one JSON value is
`invalidJson`". A configuration file whose first value decodes is read whatever follows
that value: when a character other than whitespace follows, the file is no JSON document,
yet the loop puts its configuration in the map. In bootstrap mode, a present file that is
no JSON document fails with the JSON package's own error, which is not wrapped around
`invalidJson`. -/
theorem GetEnvironmentConfigs_malformed_accepted (decoder : io.decodeConfig = Json.Decode configFromJSON)
    (unmarshal : io.unmarshalConfigs = Json.Unmarshal configsFromJSON) (s : State) :
    (∀ (env : FileInfo) content n config result,
      s.Filesystem.follow maxSymlinkHops (configFile env.name) = .ok (.file content) →
      Json.readValue content.data = .ok n → configFromJSON (content.data.take n) = some config →
      (Json.Valid content = false ↔ ∃ c ∈ content.data.drop n, Json.isSpace c = false) ∧
      addEnvironmentConfig io s.Filesystem result env = .ok (result.insert env.name config)) ∧
    (s.BootstrapMode = true → ∀ buf, io.hostFile s.EnvironmentConfigsPath = .ok buf → Json.Valid buf = false →
      ∃ e, s.GetEnvironmentConfigs io = .error e ∧ e.Is .invalidJson = false) := by
  refine ⟨fun env content n config result isFile read decoded => ⟨?_, ?_⟩, fun bootstrap buf present invalid => ?_⟩
  · have valid : Json.Valid content = true ↔ (content.data.drop n).all Json.isSpace := by
      simp only [Json.Valid_iff_readValue, read, Except.ok.injEq, exists_eq_left']
    rw [← Bool.not_eq_true, valid]
    simp
  · have value : configFileValue configFromJSON s.Filesystem env.name = some config := by
      simp only [configFileValue, isFile, Except.toOption]
      rw [(Json.Decode_ok_iff configFromJSON content config).2 ⟨n, read, decoded⟩]
    rw [addEnvironmentConfig_eq decoder, value]
  · unfold State.GetEnvironmentConfigs
    rw [if_pos bootstrap, present, unmarshal]
    dsimp only
    cases unmarshalled : Json.Unmarshal configsFromJSON buf with
    | ok m => simp [(Json.Unmarshal_ok_iff _ _ _).1 unmarshalled] at invalid
    | error e =>
      obtain ⟨message, rfl⟩ := Json.Unmarshal_error unmarshalled
      exact ⟨_, rfl, rfl⟩

end Configs

/-! ## Configuration files as Go's readers see them -/

/-- Decoding into `EnvironmentConfig` as far as the examples need it: the empty object is
the zero configuration, as Go decodes it. -/
def emptyObjectConfig (value : List Char) : Option EnvironmentConfig :=
  if value.filter (fun c => !Json.isSpace c) = ['{', '}'] then some .zero else none

/-- Decoding into a map of configurations as far as the examples need it: the empty object
is the empty map. -/
def emptyObjectConfigs (value : List Char) : Option ConfigMap :=
  if value.filter (fun c => !Json.isSpace c) = ['{', '}'] then some ∅ else none

/-- Collaborators whose decoders are Go's JSON readers, reading the host file `hostFile`. -/
def jsonCollaborators (hostFile : Except Error String) : Collaborators where
  hostFile _ := hostFile
  decodeConfig := Json.Decode emptyObjectConfig
  unmarshalConfigs := Json.Unmarshal emptyObjectConfigs
  render _ _ _ _ _ := .ok ∅
  updateDatadogMetrics _ := .ok ()

/-- The directory of the environment `production`. -/
def productionDir : TreeFS :=
  match TreeFS.empty.MkdirAll ["environments", "production"] with
  | .ok t => t
  | .error _ => .empty

/-- The configuration file of `production` holds an empty object followed by more text. -/
def trailingTree : TreeFS :=
  productionDir.insertNode ["environments", "production", "config.json"] (.file "{} x") (by decide) (by decide)

/-- A state of `tree` outside bootstrap mode. -/
def treeState (tree : TreeFS) : State := ⟨tree, none, false, "environment_configs.json"⟩

/-- A state in bootstrap mode. -/
def bootstrapState : State := ⟨.empty, none, true, "environment_configs.json"⟩

/-- The classification at `trailingTree`, with Go's readers. -/
theorem trailing_tree_classified :
    let io := jsonCollaborators (.error (.notExist ""))
    let s := treeState trailingTree
    io.decodeConfig = Json.Decode emptyObjectConfig ∧ io.unmarshalConfigs = Json.Unmarshal emptyObjectConfigs ∧
    (s.BootstrapMode = false →
      ((∃ e, s.GetEnvironmentConfigs io = .error e ∧ e.Is .invalidJson) ↔
        ∃ envs, s.Filesystem.ReadDir ["environments"] = .ok envs ∧
          ∃ env ∈ envs, ConfigFileInvalid emptyObjectConfig s.Filesystem env.name) ∧
      ∀ m, s.GetEnvironmentConfigs io = .ok m → ∃ envs, s.Filesystem.ReadDir ["environments"] = .ok envs ∧
        ∀ env ∈ envs, m.lookup env.name = configFileValue emptyObjectConfig s.Filesystem env.name) ∧
    (s.BootstrapMode = true →
      (∀ err, io.hostFile s.EnvironmentConfigsPath = .error err → err.Is .errNotExist →
        s.GetEnvironmentConfigs io = .ok ∅) ∧
      ∀ buf, io.hostFile s.EnvironmentConfigsPath = .ok buf → ∀ m,
        (s.GetEnvironmentConfigs io = .ok m ↔ Json.Valid buf ∧ emptyObjectConfigs buf.data = some m)) :=
  ⟨rfl, rfl, GetEnvironmentConfigs_invalidJson emptyObjectConfigs rfl rfl _⟩

/-- The failing inputs, with Go's readers: a configuration file `{} x` outside bootstrap
mode gives `production` the zero configuration, and a bootstrap file `x` fails with the
JSON package's syntax error. -/
theorem malformed_configs_accepted :
    let io := jsonCollaborators (.ok "x")
    io.decodeConfig = Json.Decode emptyObjectConfig ∧ io.unmarshalConfigs = Json.Unmarshal emptyObjectConfigs ∧
    ((∀ (env : FileInfo) content n config result,
      bootstrapState.Filesystem.follow maxSymlinkHops (configFile env.name) = .ok (.file content) →
      Json.readValue content.data = .ok n → emptyObjectConfig (content.data.take n) = some config →
      (Json.Valid content = false ↔ ∃ c ∈ content.data.drop n, Json.isSpace c = false) ∧
      addEnvironmentConfig io bootstrapState.Filesystem result env = .ok (result.insert env.name config)) ∧
    (bootstrapState.BootstrapMode = true → ∀ buf, io.hostFile bootstrapState.EnvironmentConfigsPath = .ok buf →
      Json.Valid buf = false →
      ∃ e, bootstrapState.GetEnvironmentConfigs io = .error e ∧ e.Is .invalidJson = false)) ∧
    (Json.Valid "{} x" = false ∧
      ((treeState trailingTree).GetEnvironmentConfigs io).map (·.lookup "production") = .ok (some .zero)) ∧
    (Json.Valid "x" = false ∧
      bootstrapState.GetEnvironmentConfigs io = .error (.text "invalid character looking for beginning of value")) :=
  ⟨rfl, rfl, GetEnvironmentConfigs_malformed_accepted emptyObjectConfigs rfl rfl _, by decide, by decide⟩

end Kuberpult
