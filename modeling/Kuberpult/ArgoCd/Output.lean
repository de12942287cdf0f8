import Kuberpult.ArgoCd.AfterTransform

/-! What `afterTransform` leaves in the tree. Every write of the loop goes under `argocd/`
(`writeManifest_overrides`), and what an iteration reads lies outside it: the
environment's applications, their team files, their version links and the releases
those point to. So when no link outside `argocd/` leads into it (`LinksStayOut`) and the
environment names are plain names, every iteration reads what it would read in the tree
before the loop, and writes the same files whatever the order of the environments
(`afterTransform_output`). Outside bootstrap mode the names are plain names
(`GetEnvironmentConfigs_names`); the keys of a bootstrap configuration need not be. Two
keys that name one directory, or a link into `argocd/`, make the output depend on the
order (`afterTransform_order_matters`). -/
namespace Kuberpult

/-! ## The directory `argocd` -/

/-- A loop of the Go code that returns at its first error: when it succeeds, its first
iteration succeeded and the rest of the loop ran from there. -/
theorem foldlM_cons_ok {α β : Type} {f : β → α → Except Error β} {acc out : β} {x : α} {xs : List α}
    (run : (x :: xs).foldlM f acc = .ok out) : ∃ acc₁, f acc x = .ok acc₁ ∧ xs.foldlM f acc₁ = .ok out := by
  rw [List.foldlM_cons] at run
  cases step : f acc x with
  | error err => rw [step] at run; cases run
  | ok acc₁ => rw [step] at run; exact ⟨acc₁, rfl, run⟩


/-- Whether a path is the directory `argocd` or lies in it. -/
def UnderArgo (p : Path) : Bool := p.head? = some "argocd"

/-- The entries of a tree outside `argocd`, in stored order. -/
def TreeFS.outside (t : TreeFS) : List (Σ _ : Path, Node) := t.nodes.entries.filter fun e => !UnderArgo e.1

/-- No link outside `argocd` leads into it: the path a link found outside `argocd` points
to is outside it as well. -/
def LinksStayOut (t : TreeFS) : Prop :=
  ∀ p target, UnderArgo p = false → t.get p = some (.symlink target) →
    UnderArgo (join (p.dropLast ++ [target])) = false

/-- Whether every link stored outside `argocd` points outside it, entry by entry. -/
def linksStayOutCheck (t : TreeFS) : Bool :=
  t.nodes.entries.all fun e =>
    match e.2 with
    | .symlink target => UnderArgo e.1 || !UnderArgo (join (e.1.dropLast ++ [target]))
    | _ => true

theorem LinksStayOut.of_check {t : TreeFS} (checked : linksStayOutCheck t = true) : LinksStayOut t := by
  intro p target out found
  cases p with
  | nil => cases found
  | cons name rest =>
    have stored := List.of_mem_dlookup found
    simpa [out] using List.all_eq_true.1 checked _ stored

theorem dlookup_filter (keep : Path → Bool) {a : Path} (kept : keep a = true) (l : List (Σ _ : Path, Node)) :
    (l.filter fun e => keep e.1).dlookup a = l.dlookup a := by
  induction l with
  | nil => rfl
  | cons e l ih =>
    obtain ⟨key, node⟩ := e
    by_cases same : a = key
    · subst same
      simp [List.filter_cons, kept, List.dlookup_cons_eq]
    · have skip : ∀ l' : List (Σ _ : Path, Node), (⟨key, node⟩ :: l').dlookup a = l'.dlookup a :=
        fun l' => List.dlookup_cons_ne l' _ same
      cases h : keep key <;> simp [List.filter_cons, h, skip, ih]

theorem TreeFS.lookup_outside (t : TreeFS) {p : Path} (out : UnderArgo p = false) :
    t.nodes.lookup p = t.outside.dlookup p :=
  (dlookup_filter (fun q => !UnderArgo q) (by simp [out]) t.nodes.entries).symm

theorem head_dropLast {p : Path} (nonRoot : p.dropLast ≠ []) : p.dropLast.head? = p.head? := by
  cases p with
  | nil => exact absurd rfl nonRoot
  | cons name rest => cases rest <;> simp_all [List.dropLast]

/-- A directory outside `argocd` lists no entry of it. -/
theorem filterMap_childInfo_outside (t : TreeFS) {p : Path} (nonRoot : p ≠ []) (out : UnderArgo p = false) :
    t.nodes.entries.filterMap (childInfo p) = t.outside.filterMap (childInfo p) := by
  rw [TreeFS.outside, List.filterMap_filter]
  refine List.filterMap_congr fun e _ => ?_
  cases under : UnderArgo e.1
  · rfl
  · simp only [Bool.not_true, Bool.false_eq_true, if_false, childInfo]
    split
    · rename_i parent
      have inside : UnderArgo p = true := by
        rw [← parent]
        simpa [UnderArgo, head_dropLast (parent ▸ nonRoot)] using under
      rw [out] at inside
      cases inside
    · rfl

section Outside

variable {t t' : TreeFS} (same : t'.outside = t.outside)

include same

theorem TreeFS.get_of_outside {p : Path} (out : UnderArgo p = false) : t'.get p = t.get p := by
  cases p with
  | nil => rfl
  | cons name rest => simp only [TreeFS.get, t.lookup_outside out, t'.lookup_outside out, same]

theorem TreeFS.ReadDir_of_outside {p : Path} (nonRoot : p ≠ []) (out : UnderArgo p = false) :
    t'.ReadDir p = t.ReadDir p := by
  simp only [TreeFS.ReadDir, TreeFS.get_of_outside same out, filterMap_childInfo_outside t nonRoot out,
    filterMap_childInfo_outside t' nonRoot out, same]

theorem TreeFS.Readlink_of_outside {p : Path} (out : UnderArgo p = false) : t'.Readlink p = t.Readlink p := by
  simp only [TreeFS.Readlink, TreeFS.get_of_outside same out]

theorem TreeFS.follow_of_outside (links : LinksStayOut t) (hops : Nat) {p : Path} (out : UnderArgo p = false) :
    t'.follow hops p = t.follow hops p := by
  induction hops generalizing p with
  | zero => rfl
  | succ hops ih =>
    simp only [TreeFS.follow, TreeFS.get_of_outside same out]
    cases found : t.get p with
    | none => rfl
    | some node =>
      cases node with
      | symlink target => exact ih (links p target out found)
      | dir => rfl
      | file content => rfl

theorem TreeFS.Stat_of_outside (links : LinksStayOut t) {p : Path} (out : UnderArgo p = false) :
    t'.Stat p = t.Stat p := by
  simp only [TreeFS.Stat, TreeFS.follow_of_outside same links _ out]

theorem TreeFS.readFile_of_outside (links : LinksStayOut t) {p : Path} (out : UnderArgo p = false) :
    t'.readFile p = t.readFile p := by
  simp only [TreeFS.readFile, TreeFS.follow_of_outside same links _ out]

end Outside

/-! ## What an iteration reads -/

/-- The entries a directory lists are names. -/
theorem TreeFS.ReadDir_names (t : TreeFS) {p : Path} {infos : List FileInfo} (read : t.ReadDir p = .ok infos) :
    ∀ info ∈ infos, IsName info.name := by
  unfold TreeFS.ReadDir at read
  split at read
  · cases read
    intro info listed
    obtain ⟨e, stored, found⟩ := List.mem_filterMap.1 listed
    unfold childInfo at found
    split at found
    · obtain ⟨name, last, rfl⟩ := Option.map_eq_some'.1 found
      exact (t.placed e.1 (AList.mem_keys.1 (List.mem_keys_of_mem stored))).2.1 name (List.mem_of_getLast?_eq_some last)
    · cases found
  · cases read
  · cases read

theorem TreeFS.get_of_Readlink {t : TreeFS} {p : Path} {target : String} (read : t.Readlink p = .ok target) :
    t.get p = some (.symlink target) := by
  unfold TreeFS.Readlink at read
  split at read
  · cases read; assumption
  · cases read
  · cases read

section Reads

variable {s : State} {t : TreeFS} (same : t.outside = s.Filesystem.outside) (links : LinksStayOut s.Filesystem)

include same

theorem State.GetEnvironmentApplications_of_outside {env : String} (named : IsName env) :
    ({ s with Filesystem := t } : State).GetEnvironmentApplications env = s.GetEnvironmentApplications env := by
  have path : join ["environments", env, "applications"] = ["environments", env, "applications"] :=
    join_names (by simp [named]; decide)
  simp only [State.GetEnvironmentApplications, names, path,
    TreeFS.ReadDir_of_outside same (List.cons_ne_nil _ _) (show UnderArgo ["environments", env, "applications"] = false
      from rfl)]

include links

theorem State.GetApplicationTeamOwner_of_outside {app : String} (named : IsName app) :
    ({ s with Filesystem := t } : State).GetApplicationTeamOwner app = s.GetApplicationTeamOwner app := by
  have dir : applicationDirectory app = ["applications", app] := join_names (by simp [named]; decide)
  have path : join (applicationDirectory app ++ ["team"]) = ["applications", app, "team"] := by
    rw [dir]
    exact join_names (by simp [named]; decide)
  simp only [State.GetApplicationTeamOwner, State.readApplicationFile, path,
    TreeFS.readFile_of_outside same links (show UnderArgo ["applications", app, "team"] = false from rfl)]

theorem State.GetEnvironmentApplicationVersion_of_outside {env app : String} (envNamed : IsName env)
    (appNamed : IsName app) :
    ({ s with Filesystem := t } : State).GetEnvironmentApplicationVersion env app =
      s.GetEnvironmentApplicationVersion env app := by
  have path : join ["environments", env, "applications", app, "version"] =
      ["environments", env, "applications", app, "version"] := join_names (by simp [envNamed, appNamed]; decide)
  simp only [State.GetEnvironmentApplicationVersion, State.readSymlink, path,
    TreeFS.Readlink_of_outside same (show UnderArgo ["environments", env, "applications", app, "version"] = false
      from rfl)]
  cases read : s.Filesystem.Readlink ["environments", env, "applications", app, "version"] with
  | error err => rfl
  | ok lnk =>
    have out := links _ lnk (show UnderArgo ["environments", env, "applications", app, "version"] = false from rfl)
      (TreeFS.get_of_Readlink read)
    simp only [List.dropLast, List.cons_append, List.nil_append] at out
    simp only [TreeFS.Stat_of_outside same links out]

theorem collectAppData_of_outside {env : String} (named : IsName env) {apps : List String}
    (appsNamed : ∀ app ∈ apps, IsName app) (acc : List AppData) :
    apps.foldlM (collectAppData { s with Filesystem := t } env) acc = apps.foldlM (collectAppData s env) acc := by
  induction apps generalizing acc with
  | nil => simp only [List.foldlM_nil]
  | cons app apps ih =>
    have appNamed := appsNamed app (List.mem_cons_self _ _)
    simp only [List.foldlM_cons, collectAppData, State.GetApplicationTeamOwner_of_outside same links appNamed,
      State.GetEnvironmentApplicationVersion_of_outside same links named appNamed,
      ih fun app mem => appsNamed app (List.mem_cons_of_mem _ mem)]

/-- Rendering an environment reads the same outside `argocd` as before the loop. -/
theorem renderArgoCdApps_of_outside (io : Collaborators) (cfg : RepositoryConfig) {env : String} (named : IsName env)
    (config : EnvironmentConfig) :
    renderArgoCdApps io cfg { s with Filesystem := t } env config = renderArgoCdApps io cfg s env config := by
  simp only [renderArgoCdApps, State.GetEnvironmentApplications_of_outside same named]
  cases listed : s.GetEnvironmentApplications env with
  | error err => rfl
  | ok apps =>
    have appsNamed : ∀ app ∈ sortStrings apps, IsName app := by
      simp only [State.GetEnvironmentApplications, names] at listed
      cases read : s.Filesystem.ReadDir (join ["environments", env, "applications"]) with
      | error err => simp [read, Except.map] at listed
      | ok infos =>
        simp only [read, Except.map, Except.ok.injEq] at listed
        intro app sorted
        obtain ⟨info, mem, rfl⟩ := List.mem_map.1 (listed ▸ (List.perm_insertionSort _ _).subset sorted)
        exact s.Filesystem.ReadDir_names read info mem
    simp only [collectAppData_of_outside same links named appsNamed]

end Reads

/-! ## What an iteration writes -/

/-- The node the newest of the writes, listed newest first, put at a path. -/
def writtenAt (writes : List (Path × Node)) (p : Path) : Option Node :=
  (writes.find? fun w => w.1 = p).map Prod.snd

/-- `t'` is the tree `t` after the writes, listed newest first: a written path holds what its
newest write put there, any other path what it held in `t`. -/
def Overrides (t' : TreeFS) (writes : List (Path × Node)) (t : TreeFS) : Prop :=
  ∀ p, t'.get p = (writtenAt writes p).orElse fun _ => t.get p

theorem Overrides.trans {t₁ t₂ t₃ : TreeFS} {older newer : List (Path × Node)} (first : Overrides t₂ older t₁)
    (second : Overrides t₃ newer t₂) : Overrides t₃ (newer ++ older) t₁ := by
  intro p
  rw [second p, first p]
  simp only [writtenAt, List.find?_append]
  cases newer.find? fun w => w.1 = p <;> rfl

theorem dlookup_append_of_not_mem {added old : List (Σ _ : Path, Node)} {p : Path} (absent : ∀ e ∈ added, e.1 ≠ p) :
    (added ++ old).dlookup p = old.dlookup p := by
  induction added with
  | nil => rfl
  | cons e added ih =>
    rw [List.cons_append, List.dlookup_cons_ne _ _ (absent e (List.mem_cons_self _ _)).symm]
    exact ih fun e' mem => absent e' (List.mem_cons_of_mem _ mem)

theorem TreeFS.get_eq_dlookup (t : TreeFS) {p : Path} (nonRoot : p ≠ []) : t.get p = t.nodes.entries.dlookup p :=
  t.get_of_ne_nil nonRoot

/-- One step of `MkdirAll` below a directory: the next directory exists, or is put in
front of the entries, and the rest is made below it. -/
theorem TreeFS.mkdirBelow_cons {t t' : TreeFS} {dir : Path} {isDir : t.get dir = some .dir} {name : String}
    {rest : Path} (made : t.mkdirBelow dir isDir (name :: rest) = .ok t') :
    ∃ (t₁ : TreeFS) (isDir₁ : t₁.get (dir ++ [name]) = some .dir) (pre : List (Σ _ : Path, Node)),
      t₁.nodes.entries = pre ++ t.nodes.entries ∧ (∀ e ∈ pre, e = ⟨dir ++ [name], .dir⟩) ∧
      t₁.mkdirBelow (dir ++ [name]) isDir₁ rest = .ok t' := by
  rw [TreeFS.mkdirBelow] at made
  split at made
  · split at made
    · rename_i found
      exact ⟨t, found, [], rfl, by simp, made⟩
    · cases made
    · rename_i named found
      have fresh : dir ++ [name] ∉ t.nodes := by
        rw [← AList.lookup_eq_none, ← t.get_of_ne_nil (by simp)]
        exact found
      refine ⟨_, _, [⟨dir ++ [name], .dir⟩], ?_, by simp, made⟩
      rw [TreeFS.insertNode_nodes, AList.insert_entries_of_neg fresh]
      rfl
  · cases made

/-- `MkdirAll` below a directory puts directories in front of the entries, each at the
directory followed by a first part of `rest`, and leaves a directory at each such path. -/
theorem TreeFS.mkdirBelow_spec (rest : Path) : ∀ {t t' : TreeFS} {dir : Path} (isDir : t.get dir = some .dir),
    t.mkdirBelow dir isDir rest = .ok t' →
    (∃ added : List (Σ _ : Path, Node), t'.nodes.entries = added ++ t.nodes.entries ∧
      ∀ e ∈ added, e.2 = .dir ∧ ∃ k, 0 < k ∧ k ≤ rest.length ∧ e.1 = dir ++ rest.take k) ∧
    ∀ k, 0 < k → k ≤ rest.length → t'.get (dir ++ rest.take k) = some .dir := by
  induction rest with
  | nil =>
    intro t t' dir isDir made
    cases made
    exact ⟨⟨[], rfl, by simp⟩, fun k pos le => absurd le (by simp; omega)⟩
  | cons name rest ih =>
    intro t t' dir isDir made
    obtain ⟨t₁, isDir₁, pre, entries₁, fresh, made₁⟩ := TreeFS.mkdirBelow_cons made
    obtain ⟨⟨added, entries, shape⟩, dirs⟩ := ih isDir₁ made₁
    have longer : ∀ e ∈ added, e.1 ≠ dir ++ [name] := fun e mem same => by
      obtain ⟨-, k, pos, le, path⟩ := shape e mem
      have := congrArg List.length (path.symm.trans same)
      simp only [List.length_append, List.length_take, List.length_singleton] at this
      omega
    refine ⟨⟨added ++ pre, by rw [entries, entries₁, List.append_assoc], fun e mem => ?_⟩, fun k pos le => ?_⟩
    · rcases List.mem_append.1 mem with old | new
      · obtain ⟨isDirNode, k, pos, le, path⟩ := shape e old
        exact ⟨isDirNode, k + 1, by omega, by simp; omega, by simp [path]⟩
      · obtain rfl := fresh e new
        exact ⟨rfl, 1, by omega, by simp, by simp⟩
    · obtain _ | _ | k := k
      · omega
      · rw [List.take_one, List.head?_cons, Option.toList_some, t'.get_eq_dlookup (by simp), entries,
          dlookup_append_of_not_mem longer, ← t₁.get_eq_dlookup (by simp)]
        exact isDir₁
      · simpa using dirs (k + 1) (by omega) (by simp at le; omega)

theorem filter_kerase_outside {p : Path} (under : UnderArgo p = true) (l : List (Σ _ : Path, Node)) :
    (l.kerase p).filter (fun e => !UnderArgo e.1) = l.filter fun e => !UnderArgo e.1 := by
  induction l with
  | nil => rfl
  | cons e l ih =>
    by_cases same : p = e.1
    · rw [List.kerase_cons_eq same, List.filter_cons_of_neg (by simp [← same, under])]
    · rw [List.kerase_cons_ne same, List.filter_cons, List.filter_cons, ih]

theorem ApiVersion.text_named (v : ApiVersion) : IsName v.text := by cases v; decide

/-- `MkdirAll` of `argocd/<apiVersion>` writes the two directories, both in `argocd`. -/
theorem MkdirAll_argocd {t t' : TreeFS} {v : ApiVersion} (made : t.MkdirAll (join ["argocd", v.text]) = .ok t') :
    t'.outside = t.outside ∧ Overrides t' [(["argocd", v.text], .dir), (["argocd"], .dir)] t := by
  rw [join_names (by simp [v.text_named]; decide)] at made
  obtain ⟨⟨added, entries, shape⟩, dirs⟩ := TreeFS.mkdirBelow_spec ["argocd", v.text] (TreeFS.get_root t) made
  have paths : ∀ e ∈ added, e.1 = ["argocd"] ∨ e.1 = ["argocd", v.text] := fun e mem => by
    obtain ⟨-, k, pos, le, path⟩ := shape e mem
    obtain _ | _ | _ | k := k <;> simp at le pos path ⊢ <;> simp [path]
  refine ⟨?_, fun p => ?_⟩
  · rw [TreeFS.outside, entries, List.filter_append, List.filter_eq_nil_iff.2 fun e mem => ?_]
    · rfl
    · rcases paths e mem with path | path <;> simp [path, UnderArgo]
  · by_cases version : p = ["argocd", v.text]
    · subst version
      simpa [writtenAt] using dirs 2 (by omega) (by simp)
    by_cases top : p = ["argocd"]
    · subst top
      simpa [writtenAt] using dirs 1 (by omega) (by simp)
    have unwritten : writtenAt [(["argocd", v.text], .dir), (["argocd"], .dir)] p = none := by
      simp [writtenAt, Ne.symm version, Ne.symm top]
    rw [unwritten]
    show t'.get p = t.get p
    cases p with
    | nil => rfl
    | cons name rest =>
      rw [t'.get_eq_dlookup (by simp), entries, dlookup_append_of_not_mem fun e mem same => ?_,
        ← t.get_eq_dlookup (by simp)]
      rcases paths e mem with path | path
      · exact top (same ▸ path)
      · exact version (same ▸ path)

/-- `WriteFile` writes one file. -/
theorem WriteFile_overrides {t t' : TreeFS} {p : Path} {content : String} (written : t.WriteFile p content = .ok t') :
    t'.nodes.entries = ⟨p, .file content⟩ :: t.nodes.entries.kerase p ∧ Overrides t' [(p, .file content)] t := by
  unfold TreeFS.WriteFile at written
  split at written
  · rename_i placed
    split at written
    · cases written
    · cases written
      refine ⟨AList.insert_entries, fun q => ?_⟩
      by_cases same : q = p
      · subst same
        simp [writtenAt, TreeFS.get_of_ne_nil _ placed.1, AList.lookup_insert]
      · have unwritten : writtenAt [(p, Node.file content)] q = none := by simp [writtenAt, Ne.symm same]
        rw [unwritten]
        show _ = t.get q
        cases q with
        | nil => rfl
        | cons name rest =>
          simp only [TreeFS.get, TreeFS.insertNode_nodes, AList.lookup_insert_ne same]
  · split at written <;> cases written

/-- The writes of one manifest of an environment, newest first: the file
`argocd/<apiVersion>/<env>.yaml`, then the directories `argocd/<apiVersion>` and `argocd`. -/
def manifestWrite (env : String) (manifest : Σ _ : ApiVersion, String) : List (Path × Node) :=
  [(["argocd", manifest.1.text, env ++ ".yaml"], .file manifest.2), (["argocd", manifest.1.text], .dir),
    (["argocd"], .dir)]

/-- Writing an environment's manifest changes nothing outside `argocd` and writes the
manifest's file and directories. -/
theorem writeManifest_overrides {env : String} (named : IsName env) {t t' : TreeFS}
    {manifest : Σ _ : ApiVersion, String} (written : writeManifest env t manifest = .ok t') :
    t'.outside = t.outside ∧ Overrides t' (manifestWrite env manifest) t := by
  unfold writeManifest at written
  cases made : t.MkdirAll (join ["argocd", manifest.1.text]) with
  | error err => rw [made] at written; cases written
  | ok fs =>
    rw [made, join_names (by simp [manifest.1.text_named, named.yaml]; decide)] at written
    obtain ⟨outside₁, dirs⟩ := MkdirAll_argocd made
    obtain ⟨entries, file⟩ := WriteFile_overrides written
    refine ⟨?_, dirs.trans file⟩
    rw [← outside₁, TreeFS.outside, entries, List.filter_cons_of_neg (by simp [UnderArgo]),
      filter_kerase_outside (show UnderArgo ["argocd", manifest.1.text, env ++ ".yaml"] = true from rfl)]
    rfl

/-- Writing the manifests of an environment, in order. -/
theorem writeManifests_overrides {env : String} (named : IsName env) (manifests : List (Σ _ : ApiVersion, String)) :
    ∀ {t t' : TreeFS}, manifests.foldlM (writeManifest env) t = .ok t' →
      t'.outside = t.outside ∧ Overrides t' (manifests.reverse.flatMap (manifestWrite env)) t := by
  induction manifests with
  | nil => intro t t' run; cases run; exact ⟨rfl, fun p => rfl⟩
  | cons manifest manifests ih =>
    intro t t' run
    obtain ⟨t₁, step, run⟩ := foldlM_cons_ok run
    obtain ⟨outside₁, first⟩ := writeManifest_overrides named step
    obtain ⟨outside₂, rest⟩ := ih run
    exact ⟨outside₂.trans outside₁, by simpa using first.trans rest⟩

/-! ## Writes that agree -/

/-- Writes that agree on every path they share. -/
def Consistent (writes : List (Path × Node)) : Prop :=
  ∀ w ∈ writes, ∀ w' ∈ writes, w.1 = w'.1 → w.2 = w'.2

theorem writtenAt_of_mem {writes : List (Path × Node)} (agree : Consistent writes) {w : Path × Node}
    (mem : w ∈ writes) : writtenAt writes w.1 = some w.2 := by
  unfold writtenAt
  cases found : writes.find? (fun w' => w'.1 = w.1) with
  | none => simpa using List.find?_eq_none.1 found w mem
  | some w' =>
    have path : w'.1 = w.1 := by simpa using List.find?_some found
    simp [agree w' (List.mem_of_find?_eq_some found) w mem path]

theorem writtenAt_eq_none {writes : List (Path × Node)} {p : Path} (absent : ∀ w ∈ writes, w.1 ≠ p) :
    writtenAt writes p = none := by
  unfold writtenAt
  rw [List.find?_eq_none.2 fun w mem => by simpa using absent w mem]
  rfl

theorem Consistent.perm {writes writes' : List (Path × Node)} (agree : Consistent writes)
    (perm : writes.Perm writes') : Consistent writes' :=
  fun w mem w' mem' => agree w (perm.symm.subset mem) w' (perm.symm.subset mem')

/-- Writes that agree put the same node at every path, in whatever order they come. -/
theorem writtenAt_perm {writes writes' : List (Path × Node)} (agree : Consistent writes)
    (perm : writes.Perm writes') (p : Path) : writtenAt writes' p = writtenAt writes p := by
  by_cases present : ∃ w ∈ writes, w.1 = p
  · obtain ⟨w, mem, rfl⟩ := present
    rw [writtenAt_of_mem agree mem, writtenAt_of_mem (agree.perm perm) (perm.subset mem)]
  · push_neg at present
    rw [writtenAt_eq_none present, writtenAt_eq_none fun w mem => present w (perm.symm.subset mem)]

theorem manifestWrite_agree {env env' : String} {m m' : Σ _ : ApiVersion, String} {w w' : Path × Node}
    (written : w ∈ manifestWrite env m) (written' : w' ∈ manifestWrite env' m') (samePath : w.1 = w'.1) :
    w.2 = w'.2 ∨ env = env' ∧ m.1 = m'.1 ∧ w.2 = .file m.2 ∧ w'.2 = .file m'.2 := by
  simp only [manifestWrite, List.mem_cons, List.mem_singleton, List.not_mem_nil, or_false] at written written'
  rcases written with rfl | rfl | rfl <;> rcases written' with rfl | rfl | rfl <;> simp at samePath ⊢
  exact .inr (String.ext (by simpa using congrArg String.data samePath))


/-! ## The application data -/

/-- What makes an application's data part of an environment's rendering: its team file
reads as its team, and its version link resolves to a release other than 0. -/
def Deployed (s : State) (env : String) (a : AppData) : Prop :=
  s.GetApplicationTeamOwner a.AppName = .ok a.TeamName ∧
    ∃ version, s.GetEnvironmentApplicationVersion env a.AppName = .ok (some version) ∧ version ≠ 0

/-- One iteration reads the application's team and appends its data exactly when it is
deployed. -/
theorem collectAppData_spec {s : State} {env : String} {acc acc' : List AppData} {app : String}
    (step : collectAppData s env acc app = .ok acc') :
    ∃ team, s.GetApplicationTeamOwner app = .ok team ∧
      (acc' = acc ++ [⟨app, team⟩] ∧ Deployed s env ⟨app, team⟩ ∨
        acc' = acc ∧ ¬∃ version, s.GetEnvironmentApplicationVersion env app = .ok (some version) ∧ version ≠ 0) := by
  unfold collectAppData at step
  cases teamRead : s.GetApplicationTeamOwner app with
  | error err => rw [teamRead] at step; cases step
  | ok team =>
    rw [teamRead] at step
    refine ⟨team, rfl, ?_⟩
    cases read : s.GetEnvironmentApplicationVersion env app with
    | error err =>
      rw [read] at step
      by_cases missing : err.Is .errNotExist
      · simp only [missing, if_true, Except.ok.injEq] at step
        exact .inr ⟨step.symm, by simp⟩
      · simp [missing] at step
    | ok found =>
      rw [read] at step
      cases found with
      | none => cases step; exact .inr ⟨rfl, by simp⟩
      | some version =>
        by_cases zero : version = 0
        · simp only [zero, if_true, Except.ok.injEq] at step
          exact .inr ⟨step.symm, by simp [zero]⟩
        · simp only [zero, if_false, Except.ok.injEq] at step
          exact .inl ⟨step.symm, teamRead, version, read, zero⟩

/-- The loop over the sorted applications appends, in their order, the data of exactly the
deployed ones. -/
theorem collectAppData_fold {s : State} {env : String} (apps : List String) :
    ∀ {acc appData : List AppData}, apps.foldlM (collectAppData s env) acc = .ok appData →
      ∃ added, appData = acc ++ added ∧ (added.map AppData.AppName).Sublist apps ∧
        ∀ a, a ∈ added ↔ a.AppName ∈ apps ∧ Deployed s env a := by
  induction apps with
  | nil => intro acc appData run; cases run; exact ⟨[], by simp, by simp, by simp⟩
  | cons app apps ih =>
    intro acc appData run
    obtain ⟨acc₁, step, run⟩ := foldlM_cons_ok run
    obtain ⟨added, rfl, sub, members⟩ := ih run
    obtain ⟨team, teamRead, ⟨rfl, deployed⟩ | ⟨rfl, undeployed⟩⟩ := collectAppData_spec step
    · refine ⟨⟨app, team⟩ :: added, by simp, sub.cons₂ app, fun a => ?_⟩
      constructor
      · rintro (_ | ⟨_, later⟩)
        · exact ⟨List.mem_cons_self _ _, deployed⟩
        · exact ((members a).1 later).imp_left (List.mem_cons_of_mem _)
      · rintro ⟨listed, deployedA⟩
        rcases List.mem_cons.1 listed with here | later
        · have sameTeam : a.TeamName = team := Except.ok.inj (deployedA.1.symm.trans (here ▸ teamRead))
          exact List.mem_cons.2 (.inl (by cases a; simp_all))
        · exact List.mem_cons_of_mem _ ((members a).2 ⟨later, deployedA⟩)
    · refine ⟨added, rfl, sub.cons app, fun a => ⟨fun mem => ((members a).1 mem).imp_left (List.mem_cons_of_mem _),
        fun ⟨listed, deployedA⟩ => ?_⟩⟩
      rcases List.mem_cons.1 listed with here | later
      · exact absurd (here ▸ deployedA.2) undeployed
      · exact (members a).2 ⟨later, deployedA⟩

/-! ## Names of environments -/

theorem addEnvironmentConfig_keys {io : Collaborators} {fs : TreeFS} {acc acc' : ConfigMap} {env : FileInfo}
    (step : addEnvironmentConfig io fs acc env = .ok acc') : ∀ key ∈ acc'.keys, key = env.name ∨ key ∈ acc.keys := by
  have inserted : ∀ config : EnvironmentConfig, ∀ key ∈ (acc.insert env.name config).keys,
      key = env.name ∨ key ∈ acc.keys := fun config key mem => by
    rw [AList.keys_insert, List.mem_cons] at mem
    exact mem.imp_right List.mem_of_mem_erase
  unfold addEnvironmentConfig at step
  split at step
  · cases step; exact inserted _
  · split at step
    · cases step; exact inserted _
    · cases step

theorem foldlM_addEnvironmentConfig_names {io : Collaborators} {fs : TreeFS} {configs : ConfigMap}
    (envs : List FileInfo) (envsNamed : ∀ info ∈ envs, IsName info.name) :
    ∀ {acc : ConfigMap}, (∀ env ∈ acc.keys, IsName env) →
      envs.foldlM (addEnvironmentConfig io fs) acc = .ok configs → ∀ env ∈ configs.keys, IsName env := by
  induction envs with
  | nil => intro acc accNamed run; cases run; exact accNamed
  | cons info envs ih =>
    intro acc accNamed run
    obtain ⟨acc₁, step, run⟩ := foldlM_cons_ok run
    refine ih (fun i mem => envsNamed i (List.mem_cons_of_mem _ mem)) (fun key mem => ?_) run
    rcases addEnvironmentConfig_keys step key mem with rfl | old
    · exact envsNamed info (List.mem_cons_self _ _)
    · exact accNamed key old

/-- Outside bootstrap mode the environments are the entries of the directory
`environments`, so their keys are names. -/
theorem GetEnvironmentConfigs_names {io : Collaborators} {s : State} (notBootstrap : s.BootstrapMode = false)
    {configs : ConfigMap} (read : s.GetEnvironmentConfigs io = .ok configs) : ∀ env ∈ configs.keys, IsName env := by
  simp only [State.GetEnvironmentConfigs, notBootstrap, Bool.false_eq_true, if_false] at read
  cases listed : s.Filesystem.ReadDir ["environments"] with
  | error err => simp only [listed] at read; cases read
  | ok envs =>
    simp only [listed] at read
    exact foldlM_addEnvironmentConfig_names envs (s.Filesystem.ReadDir_names listed)
      (fun _ absent => absurd absent (List.not_mem_nil _)) read

/-! ## The loop over the environments -/

section Loop

variable (io : Collaborators) (cfg : RepositoryConfig) (s : State)

/-- The writes of an iteration for an environment, newest first, as rendered from the tree
before the loop: none without an Argo CD configuration, else the rendered manifests'. -/
def environmentWrites (entry : Σ _ : String, EnvironmentConfig) : List (Path × Node) :=
  if entry.2.ArgoCd.isSome then
    match renderArgoCdApps io cfg s entry.1 entry.2 with
    | .ok manifests => manifests.entries.reverse.flatMap (manifestWrite entry.1)
    | .error _ => []
  else []

variable {io cfg s}

theorem mem_environmentWrites {entry : Σ _ : String, EnvironmentConfig} {w : Path × Node}
    (written : w ∈ environmentWrites io cfg s entry) :
    ∃ manifests, renderArgoCdApps io cfg s entry.1 entry.2 = .ok manifests ∧
      ∃ m ∈ manifests.entries, w ∈ manifestWrite entry.1 m := by
  unfold environmentWrites at written
  by_cases argo : entry.2.ArgoCd.isSome
  · rw [if_pos argo] at written
    split at written
    · rename_i manifests rendered
      obtain ⟨m, listed, mem⟩ := List.mem_flatMap.1 written
      exact ⟨manifests, rendered, m, List.mem_reverse.1 listed, mem⟩
    · cases written
  · rw [if_neg argo] at written
    cases written

theorem file_mem_environmentWrites {entry : Σ _ : String, EnvironmentConfig} (argo : entry.2.ArgoCd.isSome)
    {manifests : AList fun _ : ApiVersion => String}
    (rendered : renderArgoCdApps io cfg s entry.1 entry.2 = .ok manifests) {m : Σ _ : ApiVersion, String}
    (listed : m ∈ manifests.entries) :
    (["argocd", m.1.text, entry.1 ++ ".yaml"], .file m.2) ∈ environmentWrites io cfg s entry := by
  simp only [environmentWrites, argo, if_true, rendered]
  exact List.mem_flatMap.2 ⟨m, List.mem_reverse.2 listed, List.mem_cons_self _ _⟩

/-- The writes of environments with distinct names agree: two writes of one path are one
environment's, of one manifest. -/
theorem environmentWrites_consistent {order : List (Σ _ : String, EnvironmentConfig)}
    (distinct : order.NodupKeys) : Consistent (order.flatMap (environmentWrites io cfg s)) := by
  intro w mem w' mem' samePath
  obtain ⟨entry, entered, written⟩ := List.mem_flatMap.1 mem
  obtain ⟨entry', entered', written'⟩ := List.mem_flatMap.1 mem'
  obtain ⟨manifests, rendered, m, listed, wIn⟩ := mem_environmentWrites written
  obtain ⟨manifests', rendered', m', listed', wIn'⟩ := mem_environmentWrites written'
  rcases manifestWrite_agree wIn wIn' samePath with agree | ⟨envs, versions, file, file'⟩
  · exact agree
  · obtain rfl := distinct.eq_of_fst_eq entered entered' envs
    obtain rfl : manifests = manifests' := Except.ok.inj (rendered.symm.trans rendered')
    obtain rfl := manifests.nodupKeys.eq_of_fst_eq listed listed' versions
    rw [file, file']

/-- One iteration, on a tree with the entries outside `argocd` of the tree before the loop:
it keeps them, writes what it renders from the tree before the loop, and that rendering
succeeded for an environment with an Argo CD configuration. -/
theorem updateEnvironment_overrides (links : LinksStayOut s.Filesystem) {entry : Σ _ : String, EnvironmentConfig}
    (named : IsName entry.1) {t t' : TreeFS} (same : t.outside = s.Filesystem.outside)
    (run : updateEnvironment io cfg s t entry = .ok t') :
    t'.outside = s.Filesystem.outside ∧ Overrides t' (environmentWrites io cfg s entry) t ∧
      (entry.2.ArgoCd.isSome → ∃ manifests, renderArgoCdApps io cfg s entry.1 entry.2 = .ok manifests) := by
  unfold updateEnvironment at run
  by_cases argo : entry.2.ArgoCd.isSome
  · rw [if_pos argo, updateArgoCdApps, renderArgoCdApps_of_outside same links io cfg named] at run
    cases rendered : renderArgoCdApps io cfg s entry.1 entry.2 with
    | error err => rw [rendered] at run; cases run
    | ok manifests =>
      rw [rendered] at run
      obtain ⟨kept, writes⟩ := writeManifests_overrides named manifests.entries run
      refine ⟨kept.trans same, ?_, fun _ => ⟨manifests, rfl⟩⟩
      simpa [environmentWrites, argo, rendered] using writes
  · rw [if_neg argo] at run
    cases run
    exact ⟨same, fun p => by simp [environmentWrites, argo, writtenAt], fun present => absurd present argo⟩

/-- The loop over the environments in a given order: it keeps the entries outside `argocd`,
writes what each iteration renders from the tree before the loop, and every rendering of
an environment with an Argo CD configuration succeeded. -/
theorem updateEnvironments_overrides (links : LinksStayOut s.Filesystem) {order : List (Σ _ : String, EnvironmentConfig)}
    (named : ∀ entry ∈ order, IsName entry.1) {t t' : TreeFS} (same : t.outside = s.Filesystem.outside)
    (run : order.foldlM (updateEnvironment io cfg s) t = .ok t') :
    t'.outside = s.Filesystem.outside ∧ Overrides t' (order.reverse.flatMap (environmentWrites io cfg s)) t ∧
      ∀ entry ∈ order, entry.2.ArgoCd.isSome → ∃ manifests, renderArgoCdApps io cfg s entry.1 entry.2 = .ok manifests := by
  induction order generalizing t with
  | nil => cases run; exact ⟨same, fun p => rfl, fun _ absent => absurd absent (List.not_mem_nil _)⟩
  | cons entry order ih =>
    obtain ⟨t₁, step, run⟩ := foldlM_cons_ok run
    obtain ⟨same₁, first, rendered⟩ := updateEnvironment_overrides links (named entry (List.mem_cons_self _ _)) same step
    obtain ⟨same₂, rest, renderedRest⟩ := ih (fun e mem => named e (List.mem_cons_of_mem _ mem)) same₁ run
    refine ⟨same₂, by simpa using first.trans rest, fun e mem => ?_⟩
    rcases List.mem_cons.1 mem with rfl | later
    · exact rendered
    · exact renderedRest e later

/-! ## Concrete runs -/

/-- An environment managed by Argo CD, with empty settings. -/
def argoEnvironment : EnvironmentConfig := ⟨some ⟨""⟩⟩

/-- Collaborators in bootstrap mode whose configuration file holds `configs`, and whose
renderer writes one manifest: the environment's name and its applications' names. -/
def bootstrapCollaborators (configs : ConfigMap) : Collaborators where
  hostFile _ := .ok ""
  decodeConfig _ := .ok .zero
  unmarshalConfigs _ := .ok configs
  render _ _ _ env appData :=
    .ok ((∅ : AList fun _ : ApiVersion => String).insert .v1alpha1
      (env ++ ":" ++ ",".intercalate (appData.map AppData.AppName)))
  updateDatadogMetrics _ := .ok ()

/-- A writer of the branch `master` in bootstrap mode. -/
def bootstrapRepository : RepositoryConfig where
  URL := "manifests.git"
  Branch := "master"
  CommitterEmail := goString "kuberpult@example.com"
  CommitterName := goString "kuberpult"
  BootstrapMode := true
  EnvironmentConfigsPath := "environment_configs.json"
  ArgoWebhookUrl := ""
  WebURL := ""

/-- The configuration map of the environments `prod` and `dev`, both managed by Argo CD. -/
def deployedConfigs : ConfigMap := ((∅ : ConfigMap).insert "prod" argoEnvironment).insert "dev" argoEnvironment

/-- The environment `prod` with the applications `app`, of the team `team-a` and deployed
at release 1, and `idle`, whose version link is missing; the environment `dev` without
applications. -/
def deployedDirs : TreeFS :=
  match TreeFS.empty.MkdirAll ["environments", "prod", "applications", "app"] with
  | .ok t => match t.MkdirAll ["environments", "prod", "applications", "idle"] with
    | .ok t => match t.MkdirAll ["environments", "dev", "applications"] with
      | .ok t => match t.MkdirAll ["applications", "app", "releases", "1"] with
        | .ok t => match t.WriteFile ["applications", "app", "team"] "team-a" with
          | .ok t => t
          | .error _ => .empty
        | .error _ => .empty
      | .error _ => .empty
    | .error _ => .empty
  | .error _ => .empty

/-- `deployedDirs` with the version link of `app`. -/
def deployedTree : TreeFS :=
  deployedDirs.insertNode ["environments", "prod", "applications", "app", "version"]
    (.symlink "../../../../applications/app/releases/1") (by decide) (by decide)

/-- A bootstrap state of `deployedTree`. -/
def deployedState : State := ⟨deployedTree, none, true, "environment_configs.json"⟩

/-- The tree the loop leaves for `prod` and `dev`. -/
def deployedOutput : TreeFS :=
  match updateEnvironments (bootstrapCollaborators deployedConfigs) bootstrapRepository deployedState
    deployedConfigs.entries with
  | .ok t => t
  | .error _ => .empty

example : deployedOutput.get ["argocd", "v1alpha1", "prod.yaml"] = some (.file "prod:app") ∧
    deployedOutput.get ["argocd", "v1alpha1", "dev.yaml"] = some (.file "dev:") := by
  decide

/-- The output of the loop of `afterTransform`, for any order of a configuration map whose
environment names are names, on a tree where no link outside `argocd` leads into it. The
tree is unchanged outside `argocd`. For every environment with an Argo CD configuration,
the rendering reads the deployed applications in ascending order, each with its team, and
the file of each manifest holds what was rendered. Every other order that succeeds leaves
the same tree. -/
theorem afterTransform_output {configs : ConfigMap} (named : ∀ env ∈ configs.keys, IsName env)
    (links : LinksStayOut s.Filesystem) {order : List (Σ _ : String, EnvironmentConfig)}
    (reordered : order.Perm configs.entries) {t : TreeFS} (run : updateEnvironments io cfg s order = .ok t) :
    (∀ p, UnderArgo p = false → t.get p = s.Filesystem.get p) ∧
    (∀ env config, configs.lookup env = some config → config.ArgoCd.isSome →
      ∃ apps appData manifests, s.GetEnvironmentApplications env = .ok apps ∧
        (sortStrings apps).foldlM (collectAppData s env) [] = .ok appData ∧
        (appData.map AppData.AppName).Sorted (· ≤ ·) ∧
        (∀ a, a ∈ appData ↔ a.AppName ∈ apps ∧ Deployed s env a) ∧
        io.render cfg.URL cfg.Branch config env appData = .ok manifests ∧
        ∀ v content, manifests.lookup v = some content →
          t.get ["argocd", v.text, env ++ ".yaml"] = some (.file content)) ∧
    ∀ order' t', order'.Perm configs.entries → updateEnvironments io cfg s order' = .ok t' →
      ∀ p, t'.get p = t.get p := by
  have entriesNamed : ∀ {order : List (Σ _ : String, EnvironmentConfig)}, order.Perm configs.entries →
      ∀ entry ∈ order, IsName entry.1 :=
    fun reordered entry mem => named _ (List.mem_keys_of_mem (reordered.subset mem))
  obtain ⟨outside, overrides, rendered⟩ := updateEnvironments_overrides links (entriesNamed reordered) rfl run
  have agree : Consistent (order.reverse.flatMap (environmentWrites io cfg s)) :=
    environmentWrites_consistent ((List.perm_nodupKeys ((List.reverse_perm _).trans reordered)).2 configs.nodupKeys)
  refine ⟨fun p out => TreeFS.get_of_outside outside out, fun env config found argo => ?_,
    fun order' t' reordered' run' p => ?_⟩
  · have entered : (⟨env, config⟩ : Σ _ : String, EnvironmentConfig) ∈ order :=
      reordered.symm.subset (AList.mem_lookup_iff.1 found)
    obtain ⟨manifests, renderedOk⟩ := rendered _ entered argo
    have file : ∀ v content, manifests.lookup v = some content →
        t.get ["argocd", v.text, env ++ ".yaml"] = some (.file content) := fun v content stored => by
      have written := writtenAt_of_mem agree (List.mem_flatMap.2 ⟨_, List.mem_reverse.2 entered,
        file_mem_environmentWrites argo renderedOk (AList.mem_lookup_iff.1 stored)⟩)
      rw [overrides, written]
      rfl
    change renderArgoCdApps io cfg s env config = .ok manifests at renderedOk
    unfold renderArgoCdApps at renderedOk
    cases listed : s.GetEnvironmentApplications env with
    | error err => simp only [listed] at renderedOk; cases renderedOk
    | ok apps =>
      cases collected : (sortStrings apps).foldlM (collectAppData s env) [] with
      | error err => simp only [listed, collected] at renderedOk; cases renderedOk
      | ok appData =>
        simp only [listed, collected] at renderedOk
        obtain ⟨added, rfl, sub, members⟩ := collectAppData_fold _ collected
        refine ⟨apps, appData, manifests, rfl, collected, ?_, fun a => ?_, renderedOk, file⟩
        · simpa using (List.sorted_insertionSort _ apps).sublist sub
        · exact (members a).trans (and_congr_left' (List.perm_insertionSort _ apps).mem_iff)
  · obtain ⟨-, overrides', -⟩ := updateEnvironments_overrides links (entriesNamed reordered') rfl run'
    have perm : (order.reverse.flatMap (environmentWrites io cfg s)).Perm
        (order'.reverse.flatMap (environmentWrites io cfg s)) :=
      List.Perm.flatMap_right _ (((List.reverse_perm _).trans reordered).trans
        ((List.reverse_perm _).trans reordered').symm)
    rw [overrides' p, overrides p, writtenAt_perm agree perm]

end Loop

/-- The loop for `prod` and `dev`, whose names are names, on a tree whose one link stays
outside `argocd`. -/
theorem deployed_environment_output :
    (∀ env ∈ deployedConfigs.keys, IsName env) ∧ LinksStayOut deployedState.Filesystem ∧
    updateEnvironments (bootstrapCollaborators deployedConfigs) bootstrapRepository deployedState deployedConfigs.entries =
      .ok deployedOutput ∧
    (∀ p, UnderArgo p = false → deployedOutput.get p = deployedState.Filesystem.get p) ∧
    (∀ env config, deployedConfigs.lookup env = some config → config.ArgoCd.isSome →
      ∃ apps appData manifests, deployedState.GetEnvironmentApplications env = .ok apps ∧
        (sortStrings apps).foldlM (collectAppData deployedState env) [] = .ok appData ∧
        (appData.map AppData.AppName).Sorted (· ≤ ·) ∧
        (∀ a, a ∈ appData ↔ a.AppName ∈ apps ∧ Deployed deployedState env a) ∧
        (bootstrapCollaborators deployedConfigs).render bootstrapRepository.URL bootstrapRepository.Branch config env
          appData = .ok manifests ∧
        ∀ v content, manifests.lookup v = some content →
          deployedOutput.get ["argocd", v.text, env ++ ".yaml"] = some (.file content)) ∧
    ∀ order' t', order'.Perm deployedConfigs.entries →
      updateEnvironments (bootstrapCollaborators deployedConfigs) bootstrapRepository deployedState order' = .ok t' →
      ∀ p, t'.get p = deployedOutput.get p := by
  have named : ∀ env ∈ deployedConfigs.keys, IsName env := by decide
  have links : LinksStayOut deployedState.Filesystem := LinksStayOut.of_check (by decide)
  have run : updateEnvironments (bootstrapCollaborators deployedConfigs) bootstrapRepository deployedState
      deployedConfigs.entries = .ok deployedOutput := rfl
  exact ⟨named, links, run, afterTransform_output named links (List.Perm.refl _) run⟩

/-- The configuration map of two keys that name one directory, `a` and `./a`, both managed
by Argo CD. -/
def collidingConfigs : ConfigMap := ((∅ : ConfigMap).insert "a" argoEnvironment).insert "./a" argoEnvironment

/-- A tree with the environment `a`, without applications. -/
def collidingTree : TreeFS :=
  match TreeFS.empty.MkdirAll ["environments", "a", "applications"] with
  | .ok t => t
  | .error _ => .empty

/-- A bootstrap state of `collidingTree`. -/
def collidingState : State := ⟨collidingTree, none, true, "environment_configs.json"⟩

/-- The environments `e1` and `e2`, both managed by Argo CD. -/
def twoEnvironments : ConfigMap := ((∅ : ConfigMap).insert "e1" argoEnvironment).insert "e2" argoEnvironment

/-- The directories of `linkedTree`: the environment `e1` without applications, the
application `app` of `e2`, and `argocd/v1alpha1`. -/
def linkedDirs : TreeFS :=
  match TreeFS.empty.MkdirAll ["environments", "e1", "applications"] with
  | .ok t => match t.MkdirAll ["environments", "e2", "applications", "app"] with
    | .ok t => match t.MkdirAll ["argocd", "v1alpha1"] with
      | .ok t => t
      | .error _ => .empty
    | .error _ => .empty
  | .error _ => .empty

/-- A tree where the version link of `app` in `e2` leads into `argocd`, to a link named `5`
that points to the manifest of `e1`: the release resolves only once that manifest exists. -/
def linkedTree : TreeFS :=
  (linkedDirs.insertNode ["argocd", "v1alpha1", "5"] (.symlink "e1.yaml") (by decide) (by decide)).insertNode
    ["environments", "e2", "applications", "app", "version"] (.symlink "../../../../argocd/v1alpha1/5")
    (by decide) (by decide)

/-- A bootstrap state of `linkedTree`. -/
def linkedState : State := ⟨linkedTree, none, true, "environment_configs.json"⟩

/-- The order of the environments decides what `afterTransform` writes, in two ways. The
keys `a` and `./a` both render into `argocd/v1alpha1/a.yaml`, so the environment iterated
last decides what it holds. And with the names `e1` and `e2`, a version link of `e2` that
leads into `argocd` resolves to a release only when `e1`'s manifest was written first, so
the manifest of `e2` lists `app` in one order and not in the other. -/
theorem afterTransform_order_matters :
    (collidingState.GetEnvironmentConfigs (bootstrapCollaborators collidingConfigs) = .ok collidingConfigs ∧
      (afterTransform (bootstrapCollaborators collidingConfigs) bootstrapRepository collidingState).map
        (fun t => t.get ["argocd", "v1alpha1", "a.yaml"]) = .ok (some (.file "a:")) ∧
      (updateEnvironments (bootstrapCollaborators collidingConfigs) bootstrapRepository collidingState
        collidingConfigs.entries.reverse).map (fun t => t.get ["argocd", "v1alpha1", "a.yaml"]) =
          .ok (some (.file "./a:"))) ∧
    ((∀ env ∈ twoEnvironments.keys, IsName env) ∧
      linkedState.GetEnvironmentConfigs (bootstrapCollaborators twoEnvironments) = .ok twoEnvironments ∧
      (afterTransform (bootstrapCollaborators twoEnvironments) bootstrapRepository linkedState).map
        (fun t => t.get ["argocd", "v1alpha1", "e2.yaml"]) = .ok (some (.file "e2:")) ∧
      (updateEnvironments (bootstrapCollaborators twoEnvironments) bootstrapRepository linkedState
        twoEnvironments.entries.reverse).map (fun t => t.get ["argocd", "v1alpha1", "e2.yaml"]) =
          .ok (some (.file "e2:app"))) :=
  ⟨⟨rfl, rfl, rfl⟩, by decide, rfl, rfl, rfl⟩

end Kuberpult
