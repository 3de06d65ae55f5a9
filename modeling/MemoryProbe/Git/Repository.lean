import MemoryProbe.Git.Index

namespace MemoryProbe.Git

/-! ## Repositories -/

structure Tag where
  name : String
  annotated : Bool
  deriving DecidableEq, Repr

structure Commit where
  id : ObjectId
  files : Files
  tags : List Tag
  deriving DecidableEq, Repr

inductive Head where
  | branch (name : String)
  | detached
  deriving DecidableEq, Repr

/-- A line of commits, the newest first, with what is staged, what lies in the working
tree and what has been read of attributes so far. The head is a branch, or the newest
commit itself. -/
structure Repository where
  head : Head
  commits : List Commit
  index : Index
  workTree : Files
  attributeCache : AttributeCache
  deriving DecidableEq, Repr

namespace Repository

def init (branch : String) : Repository :=
  ⟨.branch branch, [], [], [], .fresh⟩

/-! ## Changing a repository -/

inductive Change where
  | write (path : List Bytes) (content : Bytes)
  | delete (path : List Bytes)
  deriving DecidableEq, Repr

def Change.apply (files : Files) : Change → Files
  | .write path content => files.write path content
  | .delete path => files.erase path

def Change.path : Change → List Bytes
  | .write path _ => path
  | .delete path => path

def edit (repository : Repository) (changes : List Change) : Repository :=
  { repository with
    workTree := changes.foldl Change.apply repository.workTree
    index := (changes.map Change.path).foldl Index.touch repository.index }

def stage (repository : Repository) : Repository :=
  let (cache, index) := repository.index.stage repository.attributeCache repository.workTree
  { repository with index, attributeCache := cache }

def commit (repository : Repository) (signature message : String) (tags : List Tag) :
    Repository :=
  let files := repository.index.files
  let id := commitId (treeId files) (repository.commits.head?.map (·.id)) signature message
  { repository with commits := ⟨id, files, tags⟩ :: repository.commits }

def detach (repository : Repository) : Repository :=
  { repository with head := .detached }

/-! ## Looking at a repository

A look from outside has read nothing yet. -/

def headFiles (repository : Repository) : Files :=
  (repository.commits.head?.map (·.files)).getD []

/-- Tracked files differ from the newest commit, staged or not. -/
def hasChanges (repository : Repository) : Bool :=
  !repository.headFiles.same repository.index.files ||
    repository.index.modified .fresh repository.workTree ≠ []

def hasUntracked (repository : Repository) : Bool :=
  repository.index.untracked repository.workTree ≠ []

def isDirty (repository : Repository) : Bool :=
  repository.hasChanges || repository.hasUntracked

def branchName (repository : Repository) : String :=
  match repository.head with
  | .branch name => name
  | .detached => "HEAD"

/-! ## Descriptions -/

def bestTag? (tags : List Tag) : Option Tag :=
  (tags.find? (·.annotated)).or tags.head?

def nearestTag? (distance : Nat) : List Commit → Option (Tag × Nat)
  | [] => none
  | commit :: earlier =>
      match bestTag? commit.tags with
      | some tag => some (tag, distance)
      | none => nearestTag? (distance + 1) earlier

/-- A commit is described by the nearest tag at or before it, with the distance and its
own short name where it is not the tagged one. Annotated tags come first. -/
def describeClean (newest : Commit) (earlier : List Commit) : String :=
  match nearestTag? 0 (newest :: earlier) with
  | none => newest.id.short
  | some (tag, 0) => tag.name
  | some (tag, distance) => tag.name ++ "-" ++ distance.repr ++ "-g" ++ newest.id.short

def dirtyMark (repository : Repository) : String :=
  if repository.hasChanges then "-dirty" else ""

end Repository

end MemoryProbe.Git
