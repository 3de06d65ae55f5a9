import MemoryProbe.LogPath

namespace MemoryProbe

/-! ## Files and folders -/

inductive FileNode where
  | file (lines : List String)
  | folder (takesFiles : Bool)
  deriving DecidableEq, Repr

namespace FileNode

def isFolder : FileNode → Bool
  | .file _ => false
  | .folder _ => true

def written (lines : List String) : FileNode → FileNode
  | .file earlier => .file (earlier ++ lines)
  | .folder takesFiles => .folder takesFiles

@[simp] theorem isFolder_written (lines : List String) (node : FileNode) :
    (node.written lines).isFolder = node.isFolder := by
  cases node <;> rfl

end FileNode

/-- A folder is known by the names on the way to it from the root. -/
structure FileEntry where
  folder : List Bytes
  name : Bytes
  node : FileNode
  deriving DecidableEq, Repr

namespace FileEntry

def path (entry : FileEntry) : List Bytes :=
  entry.folder ++ [entry.name]

def isFolderAt (path : List Bytes) (entry : FileEntry) : Bool :=
  entry.path = path && entry.node.isFolder

/-- Lines are written after those that a file has. -/
def written (path : List Bytes) (lines : List String) (entry : FileEntry) : FileEntry :=
  { entry with node := if entry.path = path then entry.node.written lines else entry.node }

@[simp] theorem isFolder_written (path : List Bytes) (lines : List String)
    (entry : FileEntry) : (entry.written path lines).node.isFolder = entry.node.isFolder := by
  unfold written
  split
  · exact FileNode.isFolder_written lines entry.node
  · rfl

end FileEntry

/-! ## File trees -/

def maxNameLength : Nat := 255

def isName (part : Bytes) : Bool :=
  !LogPath.isIdle part && part ≠ LogPath.parent && !part.contains LogPath.slash &&
    part.length ≤ maxNameLength

def holdsFolder (entries : List FileEntry) (path : List Bytes) : Bool :=
  path = [] || entries.any (·.isFolderAt path)

theorem holdsFolder_iff {entries : List FileEntry} {path : List Bytes} :
    holdsFolder entries path = true ↔
      path = [] ∨ ∃ entry ∈ entries, entry.path = path ∧ entry.node.isFolder = true := by
  simp [holdsFolder, FileEntry.isFolderAt]

/-- A tree lists what is below its root, the oldest first. -/
@[ext] structure FileTree where
  entries : List FileEntry
  distinct : (entries.map FileEntry.path).Nodup
  standing : ∀ entry ∈ entries,
    isName entry.name = true ∧ holdsFolder entries entry.folder = true
  deriving DecidableEq, Repr

namespace FileTree

def paths (tree : FileTree) : List (List Bytes) :=
  tree.entries.map FileEntry.path

def node? (tree : FileTree) (path : List Bytes) : Option FileNode :=
  if path = [] then some (.folder true)
  else (tree.entries.find? fun entry => entry.path = path).map FileEntry.node

def hasFolder (tree : FileTree) (path : List Bytes) : Bool :=
  holdsFolder tree.entries path

def takesFiles (tree : FileTree) (folder : List Bytes) : Bool :=
  tree.node? folder = some (.folder true)

theorem hasFolder_of_takesFiles {tree : FileTree} {folder : List Bytes}
    (takes : tree.takesFiles folder = true) : tree.hasFolder folder = true := by
  rw [hasFolder, holdsFolder_iff]
  by_cases root : folder = []
  · exact .inl root
  rw [takesFiles, node?, if_neg root, decide_eq_true_eq, Option.map_eq_some_iff] at takes
  rcases takes with ⟨entry, found, node⟩
  have same : entry.path = folder := by simpa using List.find?_some found
  exact .inr ⟨entry, List.mem_of_find?_eq_some found, same, by rw [node, FileNode.isFolder]⟩

/-! ## Changes -/

/-- What is new stands in a folder that takes files, under a name that is free there. -/
def make (tree : FileTree) (folder : List Bytes) (name : Bytes) (node : FileNode) :
    Option FileTree :=
  if fits : isName name = true ∧ tree.takesFiles folder = true ∧
      folder ++ [name] ∉ tree.paths then
    some {
      entries := tree.entries ++ [⟨folder, name, node⟩]
      distinct := by
        rw [List.map_append, List.nodup_append]
        refine ⟨tree.distinct, List.pairwise_singleton _ _, ?_⟩
        intro path member new singleton same
        rw [List.map_singleton, List.mem_singleton] at singleton
        have free : path ≠ folder ++ [name] := fun taken => fits.2.2 (taken ▸ member)
        exact free (same.trans singleton)
      standing := by
        have kept {path : List Bytes} (held : tree.hasFolder path = true) :
            holdsFolder (tree.entries ++ [⟨folder, name, node⟩]) path = true := by
          rw [hasFolder, holdsFolder_iff] at held
          rw [holdsFolder_iff]
          exact held.imp_right fun ⟨entry, member, found⟩ =>
            ⟨entry, List.mem_append_left _ member, found⟩
        intro entry member
        rcases List.mem_append.mp member with old | new
        · exact (tree.standing entry old).imp_right kept
        · rw [List.mem_singleton.mp new]
          exact ⟨fits.1, kept (hasFolder_of_takesFiles fits.2.1)⟩ }
  else none

/-- Folders are never removed. -/
def removeFiles (tree : FileTree) (gone : List (List Bytes)) : FileTree where
  entries := tree.entries.filter fun entry =>
    entry.node.isFolder || !gone.contains entry.path
  distinct := tree.distinct.sublist (List.filter_sublist.map _)
  standing := by
    intro entry member
    have stood := tree.standing entry (List.mem_filter.mp member).1
    refine ⟨stood.1, ?_⟩
    rw [holdsFolder_iff] at stood ⊢
    refine stood.2.imp_right fun ⟨parent, inside, found⟩ => ⟨parent, ?_, found⟩
    exact List.mem_filter.mpr ⟨inside, by rw [found.2, Bool.true_or]⟩

def append (tree : FileTree) (path : List Bytes) (lines : List String) : FileTree where
  entries := tree.entries.map (FileEntry.written path lines)
  distinct := by
    rw [List.map_map]
    exact tree.distinct
  standing := by
    intro entry member
    rcases List.mem_map.mp member with ⟨old, inside, rfl⟩
    have stood := tree.standing old inside
    refine ⟨stood.1, ?_⟩
    rw [holdsFolder_iff] at stood ⊢
    refine stood.2.imp_right fun ⟨parent, above, found⟩ => ?_
    exact ⟨parent.written path lines, List.mem_map_of_mem above, found.1,
      by rw [FileEntry.isFolder_written, found.2]⟩

/-! ## Ways through a tree -/

def maxPathLength : Nat := 4095

/-- From the root upwards there is only the root. -/
def enter (tree : FileTree) (folder : List Bytes) (part : Bytes) : Option (List Bytes) :=
  if part = LogPath.parent then some folder.dropLast
  else if tree.hasFolder (folder ++ [part]) then some (folder ++ [part])
  else none

def start (here : List Bytes) (path : Bytes) : List Bytes :=
  if LogPath.lead path = [LogPath.slash] then [] else here

def folder? (tree : FileTree) (here : List Bytes) (path : Bytes) : Option (List Bytes) :=
  if path.length ≤ maxPathLength then
    (LogPath.parts path).foldlM tree.enter (start here path)
  else none

def filesIn (tree : FileTree) (folder : List Bytes) : List Bytes :=
  (tree.entries.filter fun entry => entry.folder = folder && !entry.node.isFolder).map (·.name)

def makeFolder (tree : FileTree) (folder : List Bytes) (part : Bytes) :
    Option (FileTree × List Bytes) :=
  match tree.enter folder part with
  | some entered => some (tree, entered)
  | none => (tree.make folder part (.folder true)).map (·, folder ++ [part])

/-- Missing folders are made on the way. They stay when it breaks off. -/
def makeFolders (tree : FileTree) (folder : List Bytes) :
    List Bytes → FileTree × Option (List Bytes)
  | [] => (tree, some folder)
  | part :: rest =>
      match tree.makeFolder folder part with
      | none => (tree, none)
      | some (made, entered) => made.makeFolders entered rest

/-- A file is opened to be written on, and made where it is missing. -/
def openFile (tree : FileTree) (folder : List Bytes) (name : Bytes) : Option FileTree :=
  match tree.node? (folder ++ [name]) with
  | some (.file _) => if tree.takesFiles folder then some tree else none
  | some (.folder _) => none
  | none => tree.make folder name (.file [])

end FileTree

end MemoryProbe
