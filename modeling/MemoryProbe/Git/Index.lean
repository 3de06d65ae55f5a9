import MemoryProbe.Git.Clean
import MemoryProbe.Git.Ignore

namespace MemoryProbe.Git

/-- What is staged: for each path the content that is stored, with the size of the file
it was taken from. A file that is written again afterwards has to be looked into to see
whether it has changed. -/
structure IndexEntry where
  path : List Bytes
  stored : Bytes
  size : Nat
  touched : Bool
  deriving DecidableEq, Repr

abbrev Index := List IndexEntry

namespace Index

def files (index : Index) : Files :=
  index.map fun entry => ⟨entry.path, entry.stored⟩

def has (index : Index) (path : List Bytes) : Bool :=
  index.any fun entry => entry.path = path

def erase (index : Index) (path : List Bytes) : Index :=
  index.filter fun entry => entry.path ≠ path

def touch (index : Index) (path : List Bytes) : Index :=
  index.map fun entry =>
    if entry.path = path then { entry with touched := true } else entry

/-- The content that would be stored of a file. -/
def cleaned (index : Index) (cache : AttributeCache) (workTree : Files) (path : List Bytes)
    (content : Bytes) : AttributeCache × Bytes :=
  let (cache, found) := cache.rulesFor workTree index.files path
  (cache, Clean.content (AttributeCache.value? found path) (index.files.content? path)
    content)

def isModified (index : Index) (cache : AttributeCache) (workTree : Files)
    (entry : IndexEntry) : Bool :=
  match workTree.content? entry.path with
  | none => true
  | some content =>
      content.length ≠ entry.size || (entry.touched &&
        (index.cleaned cache workTree entry.path content).2 ≠ entry.stored)

def modified (index : Index) (cache : AttributeCache) (workTree : Files) :
    List (List Bytes) :=
  (index.filter (index.isModified cache workTree)).map (·.path)

def untracked (index : Index) (workTree : Files) : List (List Bytes) :=
  (workTree.filter fun file =>
    !index.has file.path && !Ignore.isIgnored workTree index.files file.path).map (·.path)

def stageFile (workTree : Files) (state : AttributeCache × Index) (path : List Bytes) :
    AttributeCache × Index :=
  let (cache, index) := state
  match workTree.content? path with
  | none => (cache, index.erase path)
  | some content =>
      let (cache, stored) := index.cleaned cache workTree path content
      (cache, index.erase path ++ [⟨path, stored, content.length, false⟩])

/-- Every difference is staged, in the order of the paths: what is staged first has a
say in what is stored later. -/
def stage (index : Index) (cache : AttributeCache) (workTree : Files) :
    AttributeCache × Index :=
  ((index.modified cache workTree ++ index.untracked workTree).mergeSort fun left right =>
    decide (PathPattern.join left ≤ PathPattern.join right)).foldl
      (stageFile workTree) (cache, index)

end Index

end MemoryProbe.Git
