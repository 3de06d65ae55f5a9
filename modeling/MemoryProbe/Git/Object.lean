import MemoryProbe.Git.Sha1

namespace MemoryProbe.Git

/-! ## Object names -/

/-- An object is named by the digest of its kind, its size and its content. -/
structure ObjectId where
  bytes : Bytes
  deriving DecidableEq, Repr

namespace ObjectId

def ofObject (kind : String) (content : Bytes) : ObjectId :=
  ⟨Sha1.digest (Bytes.ofString (kind ++ " " ++ content.length.repr ++ "\x00") ++ content)⟩

def hexDigits (byte : UInt8) : List Char :=
  [Nat.digitChar (byte.toNat / 16), Nat.digitChar (byte.toNat % 16)]

def hex (id : ObjectId) : String :=
  String.ofList (id.bytes.flatMap hexDigits)

def shortLength : Nat := 7

def short (id : ObjectId) : String :=
  String.ofList ((id.bytes.flatMap hexDigits).take shortLength)

end ObjectId

/-! ## Files -/

structure File where
  path : List Bytes
  content : Bytes
  deriving DecidableEq, Repr

/-- A set of files has one content for each path. -/
abbrev Files := List File

namespace Files

def content? (files : Files) (path : List Bytes) : Option Bytes :=
  (files.find? fun file => file.path = path).map (·.content)

def has (files : Files) (path : List Bytes) : Bool :=
  files.any fun file => file.path = path

def erase (files : Files) (path : List Bytes) : Files :=
  files.filter fun file => file.path ≠ path

def write (files : Files) (path : List Bytes) (content : Bytes) : Files :=
  files.erase path ++ [⟨path, content⟩]

def holds (files other : Files) : Bool :=
  other.all fun file => files.content? file.path = some file.content

def same (left right : Files) : Bool :=
  left.holds right && right.holds left

/-- The files of a folder, with their paths from there on. -/
def below (files : Files) (name : Bytes) : Files :=
  files.filterMap fun file =>
    match file.path with
    | [] => none
    | head :: rest => if head = name ∧ rest ≠ [] then some ⟨rest, file.content⟩ else none

def depth (files : Files) : Nat :=
  (files.map (·.path.length)).foldl max 0

end Files

/-! ## Trees -/

structure TreeEntry where
  name : Bytes
  isFolder : Bool
  id : ObjectId
  deriving DecidableEq, Repr

namespace TreeEntry

/-- The entries of a tree are in the order of their names, where a folder's name counts
with a slash at its end. -/
def key (entry : TreeEntry) : Bytes :=
  if entry.isFolder then entry.name ++ Bytes.ofString "/" else entry.name

def mode (entry : TreeEntry) : String :=
  if entry.isFolder then "40000" else "100644"

def bytes (entry : TreeEntry) : Bytes :=
  Bytes.ofString (entry.mode ++ " ") ++ entry.name ++ 0 :: entry.id.bytes

end TreeEntry

def blobId (content : Bytes) : ObjectId :=
  ObjectId.ofObject "blob" content

def treeOfEntries (entries : List TreeEntry) : ObjectId :=
  ObjectId.ofObject "tree" ((entries.mergeSort fun left right =>
    decide (left.key ≤ right.key)).flatMap TreeEntry.bytes)

/-- The tree of files whose paths have at most `depth` parts. -/
def treeIdWithin : Nat → Files → ObjectId
  | 0, _ => treeOfEntries []
  | depth + 1, files =>
      treeOfEntries ((files.filterMap (·.path.head?)).eraseDups.map fun name =>
        match files.content? [name] with
        | some content => ⟨name, false, blobId content⟩
        | none => ⟨name, true, treeIdWithin depth (files.below name)⟩)

def treeId (files : Files) : ObjectId :=
  treeIdWithin files.depth files

/-- A commit names its tree, the commit before it, who made it and when, and its
message. -/
def commitId (tree : ObjectId) (parent : Option ObjectId) (signature message : String) :
    ObjectId :=
  ObjectId.ofObject "commit" (Bytes.ofString (
    "tree " ++ tree.hex ++ "\n" ++
    parent.elim "" (fun parent => "parent " ++ parent.hex ++ "\n") ++
    "author " ++ signature ++ "\ncommitter " ++ signature ++ "\n\n" ++ message))

end MemoryProbe.Git
