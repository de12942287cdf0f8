import Mathlib.Data.List.AList
import Kuberpult.Fs.Path

/-! The tree-building filesystem `fs.TreeBuilderFS` that transformers write to and the
`State` readers read from. Its source is not among this repository's files, so it is
modelled from the spec (§3 and §4.1): a view of a git tree in which every path holds a
directory, a file or a symbolic link, `Readlink` returns a link's target, `Stat` and
`Open` follow links, and a missing path is a does-not-exist error.

A tree is a finite map from paths to nodes. Its entries are listed by `ReadDir` in the
order they are stored, so a statement over every tree is a statement over every order
a directory can be listed in. The structure carries the shape of a tree: every stored
path is made of names and sits in the root or in a stored directory (`Placed`). -/
namespace Kuberpult

/-- What a path of the tree holds. -/
inductive Node where
  | dir
  | file (content : String)
  | symlink (target : String)
  deriving DecidableEq, Repr

/-- The entries of a tree, in the order `ReadDir` lists them. -/
abbrev Nodes := AList (fun _ : Path => Node)

/-- A path a tree may hold: not the root, made of names, and in the root or in a
directory of the tree. -/
def Placed (nodes : Nodes) (p : Path) : Prop :=
  p ≠ [] ∧ (∀ name ∈ p, IsName name) ∧ (p.dropLast = [] ∨ nodes.lookup p.dropLast = some .dir)

instance (nodes : Nodes) (p : Path) : Decidable (Placed nodes p) :=
  inferInstanceAs (Decidable (_ ∧ _ ∧ _))

/-- Modelled from the spec: `fs.TreeBuilderFS`, a tree of directories, files and links. -/
structure TreeFS where
  nodes : Nodes
  placed : ∀ p ∈ nodes, Placed nodes p

/-- The tree of a branch without commits, `fs.NewEmptyTreeBuildFS`. -/
def TreeFS.empty : TreeFS := ⟨∅, fun _ absent => absurd absent (AList.not_mem_empty _)⟩

/-- What a path holds; the root is a directory. -/
def TreeFS.get (t : TreeFS) : Path → Option Node
  | [] => some .dir
  | p => t.nodes.lookup p

/-- What `ReadDir` and `Stat` report of an entry. -/
structure FileInfo where
  name : String
  isDir : Bool
  deriving DecidableEq, Repr

/-- The entry of a directory listing for a stored path, when it sits in `dir`. -/
def childInfo (dir : Path) (entry : Sigma fun _ : Path => Node) : Option FileInfo :=
  if entry.1.dropLast = dir then entry.1.getLast?.map fun name => ⟨name, entry.2 = .dir⟩ else none

/-- Billy's `ReadDir(path)`: the entries of a directory, in stored order. -/
def TreeFS.ReadDir (t : TreeFS) (p : Path) : Except Error (List FileInfo) :=
  match t.get p with
  | some .dir => .ok (t.nodes.entries.filterMap (childInfo p))
  | some _ => .error (.io (p.text ++ ": not a directory"))
  | none => .error (.notExist p.text)

/-- Billy's `Readlink(path)`: the target a link stores. -/
def TreeFS.Readlink (t : TreeFS) (p : Path) : Except Error String :=
  match t.get p with
  | some (.symlink target) => .ok target
  | some _ => .error (.io (p.text ++ ": invalid argument"))
  | none => .error (.notExist p.text)

/-- How many links a lookup follows before it fails, as the host's limit does. -/
def maxSymlinkHops : Nat := 40

/-- The node a path leads to, following links relative to their directory. -/
def TreeFS.follow (t : TreeFS) : Nat → Path → Except Error Node
  | 0, p => .error (.io (p.text ++ ": too many levels of symbolic links"))
  | hops + 1, p =>
    match t.get p with
    | some (.symlink target) => t.follow hops (join (p.dropLast ++ [target]))
    | some node => .ok node
    | none => .error (.notExist p.text)

/-- Billy's `Stat(path)`: follows links; the name is the last element of the path asked for. -/
def TreeFS.Stat (t : TreeFS) (p : Path) : Except Error FileInfo :=
  (t.follow maxSymlinkHops p).map fun node => ⟨p.getLast?.getD ".", node = .dir⟩

/-- The package's `readFile(fs, path)`: `Open` follows links, `io.ReadAll` reads the file. -/
def TreeFS.readFile (t : TreeFS) (p : Path) : Except Error String :=
  match t.follow maxSymlinkHops p with
  | .ok (.file content) => .ok content
  | .ok _ => .error (.io (p.text ++ ": is a directory"))
  | .error err => .error err

/-- Following links ends on a directory or a file, never on a link. -/
theorem TreeFS.follow_ne_symlink (t : TreeFS) (hops : Nat) (p : Path) (target : String) :
    t.follow hops p ≠ .ok (.symlink target) := by
  induction hops generalizing p with
  | zero => simp [TreeFS.follow]
  | succ hops ih =>
    unfold TreeFS.follow
    split
    · exact ih _
    · rename_i notLink _
      intro found
      cases found
      exact notLink target rfl
    · simp

/-- Listing a directory fails only because the path is missing or is not a directory. -/
theorem TreeFS.ReadDir_error (t : TreeFS) {p : Path} {err : Error} (failed : t.ReadDir p = .error err) :
    err = .notExist p.text ∨ err = .io (p.text ++ ": not a directory") := by
  unfold TreeFS.ReadDir at failed
  split at failed <;> cases failed
  exacts [.inr rfl, .inl rfl]

/-! ## Writing -/

@[simp] theorem TreeFS.get_root (t : TreeFS) : t.get [] = some .dir := rfl

theorem TreeFS.get_of_ne_nil (t : TreeFS) {p : Path} (nonRoot : p ≠ []) : t.get p = t.nodes.lookup p := by
  cases p with
  | nil => exact absurd rfl nonRoot
  | cons name rest => rfl

/-- A stored directory, or the root, can take a new entry named `name`. -/
theorem TreeFS.placed_child (t : TreeFS) {dir : Path} (isDir : t.get dir = some .dir) {name : String}
    (named : IsName name) : Placed t.nodes (dir ++ [name]) := by
  refine ⟨by simp, ?_, ?_⟩
  · intro part mem
    rcases List.mem_append.mp mem with inDir | last
    · cases dir with
      | nil => simp at inDir
      | cons d ds =>
        have stored : (d :: ds) ∈ t.nodes := AList.lookup_isSome.mp (by simp [TreeFS.get] at isDir; simp [isDir])
        exact (t.placed _ stored).2.1 part inDir
    · simp only [List.mem_singleton] at last
      exact last ▸ named
  · rw [List.dropLast_concat]
    cases dir with
    | nil => exact .inl rfl
    | cons d ds => exact .inr isDir

theorem placed_insert {nodes : Nodes} {p q : Path} {node : Node} (placedP : Placed nodes p)
    (keepsDir : nodes.lookup q = some .dir → node = .dir) :
    Placed (nodes.insert q node) p := by
  refine ⟨placedP.1, placedP.2.1, ?_⟩
  rcases placedP.2.2 with top | inDir
  · exact .inl top
  · by_cases same : p.dropLast = q
    · rw [same, AList.lookup_insert, keepsDir (same ▸ inDir)]
      exact .inr rfl
    · rw [AList.lookup_insert_ne same]
      exact .inr inDir

/-- Store a node at a placed path, where it does not replace a directory by something else. -/
def TreeFS.insertNode (t : TreeFS) (q : Path) (node : Node) (placedQ : Placed t.nodes q)
    (keepsDir : t.nodes.lookup q = some .dir → node = .dir) : TreeFS where
  nodes := t.nodes.insert q node
  placed p stored := by
    rcases (AList.mem_insert _).mp stored with rfl | old
    · exact placed_insert placedQ keepsDir
    · exact placed_insert (t.placed p old) keepsDir

@[simp] theorem TreeFS.insertNode_nodes (t : TreeFS) (q : Path) (node : Node) placed keepsDir :
    (t.insertNode q node placed keepsDir).nodes = t.nodes.insert q node := rfl

/-- Billy's `MkdirAll`, below a directory `dir` of the tree: each missing directory of
`rest` is created, and an element that is a file or a link fails. -/
def TreeFS.mkdirBelow (t : TreeFS) (dir : Path) (isDir : t.get dir = some .dir) :
    Path → Except Error TreeFS
  | [] => .ok t
  | name :: rest =>
    if named : IsName name then
      match found : t.get (dir ++ [name]) with
      | some .dir => t.mkdirBelow (dir ++ [name]) found rest
      | some _ => .error (.io ((dir ++ [name]).text ++ ": not a directory"))
      | none =>
        let placed := t.placed_child isDir named
        let grown := t.insertNode (dir ++ [name]) .dir placed (fun _ => rfl)
        grown.mkdirBelow (dir ++ [name])
          (by rw [TreeFS.get_of_ne_nil _ placed.1]; exact AList.lookup_insert _) rest
    else .error (.io ((dir ++ [name]).text ++ ": invalid path"))

/-- Billy's `MkdirAll(path)`. -/
def TreeFS.MkdirAll (t : TreeFS) (p : Path) : Except Error TreeFS := t.mkdirBelow [] rfl p

/-- Billy's `util.WriteFile(fs, path, content)`: creates or truncates a file in an
existing directory. -/
def TreeFS.WriteFile (t : TreeFS) (p : Path) (content : String) : Except Error TreeFS :=
  if placed : Placed t.nodes p then
    if isDir : t.nodes.lookup p = some .dir then .error (.io (p.text ++ ": is a directory"))
    else .ok (t.insertNode p (.file content) placed (fun found => absurd found isDir))
  else if t.get p.dropLast = none then .error (.notExist p.text)
  else .error (.io (p.text ++ ": invalid path"))

/-- Modelled from the spec: Billy's `Remove(path)` removes a file, a link (not what it
points to) or an empty directory; a missing path is a does-not-exist error. -/
def TreeFS.Remove (t : TreeFS) (p : Path) : Except Error TreeFS :=
  match t.nodes.lookup p with
  | none => .error (.notExist p.text)
  | some _ =>
    if childless : ∀ q ∈ t.nodes.keys, q.dropLast ≠ p then
      .ok ⟨t.nodes.erase p, fun q kept => by
        obtain ⟨other, stored⟩ := (AList.mem_erase).1 kept
        obtain ⟨nonRoot, named, parent⟩ := t.placed q stored
        refine ⟨nonRoot, named, parent.imp_right fun inDir => ?_⟩
        rw [AList.lookup_erase_ne (childless q (AList.mem_keys.1 stored)), inDir]⟩
    else .error (.io (p.text ++ ": directory not empty"))

/-- A file or a link can always be removed: nothing sits below it. -/
theorem TreeFS.Remove_of_not_dir {t : TreeFS} {p : Path} {node : Node} (found : t.get p = some node)
    (notDir : node ≠ .dir) : ∃ t', t.Remove p = .ok t' := by
  have nonRoot : p ≠ [] := fun root => notDir (Option.some.inj (root ▸ found).symm)
  rw [TreeFS.get_of_ne_nil _ nonRoot] at found
  have childless : ∀ q ∈ t.nodes.keys, q.dropLast ≠ p := fun q stored parent => by
    rcases (t.placed q (AList.mem_keys.2 stored)).2.2 with top | inDir
    · exact nonRoot (parent ▸ top)
    · exact notDir (Option.some.inj (found.symm.trans (parent ▸ inDir)))
  unfold TreeFS.Remove
  rw [found]
  exact ⟨_, dif_pos childless⟩

/-- A removal takes away its path and keeps every other path as it was. -/
theorem TreeFS.Remove_get {t t' : TreeFS} {p : Path} (removed : t.Remove p = .ok t') (q : Path) :
    t'.get q = if q = p then none else t.get q := by
  unfold TreeFS.Remove at removed
  split at removed
  · cases removed
  · rename_i node found
    split at removed
    · cases removed
      have nonRoot : p ≠ [] := (t.placed p (AList.lookup_isSome.1 (by simp [found]))).1
      by_cases same : q = p
      · subst same
        rw [if_pos rfl, TreeFS.get_of_ne_nil _ nonRoot]
        exact AList.lookup_erase _ _
      · rw [if_neg same]
        cases q with
        | nil => rfl
        | cons name rest => exact AList.lookup_erase_ne same
    · cases removed

end Kuberpult
