import MemoryProbe.FileTree
import MemoryProbe.Log.Date

namespace MemoryProbe.Log.Rotation

/-! ## Daily log files

A log writes to a file named for the day. Before it opens one, it makes room among
the files of its folder whose names begin with the log's, the oldest first, so that
no more than three are there afterwards. -/

def maxFiles : Nat := 3

def isOfLog (fileName : String) (name : Bytes) : Bool :=
  (Bytes.ofString fileName).isPrefixOf name && name.toString?.isSome

/-- Of the names in a folder, those that have to go. -/
def expired (fileName : String) (names : List Bytes) : List Bytes :=
  let ofLog := names.filter (isOfLog fileName)
  ofLog.take (ofLog.length - (maxFiles - 1))

/-- Whether a file of the log's directory can be named at all. -/
def canName (path : LogPath) (name : Bytes) : Bool :=
  (path.fileAt name).length ≤ FileTree.maxPathLength

/-- Nothing is pruned in a folder that is not there yet or takes no files. -/
def prune (here : List Bytes) (tree : FileTree) (path : LogPath) : FileTree :=
  match tree.folder? here path.directory with
  | none => tree
  | some folder =>
      if tree.takesFiles folder then
        let gone := (expired path.fileName (tree.filesIn folder)).filter (canName path)
        tree.removeFiles (gone.map fun name => folder ++ [name])
      else tree

def nameOn (path : LogPath) (today : Date) : Bytes :=
  Bytes.ofString (path.fileName ++ "." ++ today.text)

def makeFolders (here : List Bytes) (tree : FileTree) (path : LogPath) :
    FileTree × Option (List Bytes) :=
  if path.directory.length ≤ FileTree.maxPathLength then
    tree.makeFolders (FileTree.start here path.directory) (LogPath.parts path.directory)
  else (tree, none)

def openFile (today : Date) (tree : FileTree) (folder : List Bytes) (path : LogPath) :
    Option FileTree :=
  if canName path (nameOn path today) then tree.openFile folder (nameOn path today) else none

/-- The tree is pruned, the folder of the log is made where it is missing, and the file of
the day is opened in it. -/
def openLog (here : List Bytes) (today : Date) (tree : FileTree) (path : LogPath) :
    FileTree × Option (List Bytes) :=
  match makeFolders here (prune here tree path) path with
  | (made, none) => (made, none)
  | (made, some folder) =>
      match openFile today made folder path with
      | none => (made, none)
      | some opened => (opened, some (folder ++ [nameOn path today]))

end MemoryProbe.Log.Rotation
