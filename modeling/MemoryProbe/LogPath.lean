import MemoryProbe.Bytes.Utf8

namespace MemoryProbe

/-- A log path is split into a directory and the name that every file of the log starts
with. -/
structure LogPath where
  directory : Bytes
  fileName : String
  deriving DecidableEq, Repr

namespace LogPath

def slash : UInt8 := 47
def dot : UInt8 := 46

/-- Parts between slashes that are empty or a single dot lead nowhere and count for
nothing, except a dot at the very start. -/
def isIdle (part : Bytes) : Bool :=
  part = [] || part = [dot]

def parent : Bytes := [dot, dot]

/-- The start of a path that is no part of its own: the root or a leading dot. -/
def lead (path : Bytes) : Bytes :=
  match path with
  | 47 :: _ => [slash]
  | [46] => [dot]
  | 46 :: 47 :: _ => [dot]
  | _ => []

/-- The parts after the start, the last one first. -/
def partsBack (path : Bytes) : List Bytes :=
  ((path.drop (lead path).length).splitOn slash).reverse

/-- The parts that lead somewhere. -/
def parts (path : Bytes) : List Bytes :=
  (partsBack path).reverse.filter fun part => !isIdle part

/-- A directory is named as the path names it, up to its last part that counts. -/
def directoryOf (path : Bytes) (back : List Bytes) : Bytes :=
  match lead path ++ List.intercalate [slash] (back.dropWhile isIdle).reverse with
  | [] => [dot]
  | directory => directory

def ofPath? (path : Bytes) : Option LogPath :=
  match (partsBack path).dropWhile isIdle with
  | [] => none
  | name :: back =>
      if name = parent then none
      else name.toString?.map fun name => ⟨directoryOf path back, name⟩

/-- Refused paths are those whose last part is missing, or the parent directory, or
no text. -/
def refusal (path : Bytes) : String :=
  "log file " ++ path.display ++ " has no usable file name"

def split (path : Bytes) : Except String LogPath :=
  match ofPath? path with
  | some found => .ok found
  | none => .error (refusal path)

/-- The root is the only directory that ends with a slash of its own. -/
def fileAt (path : LogPath) (name : Bytes) : Bytes :=
  if path.directory.getLast? = some slash then path.directory ++ name
  else path.directory ++ slash :: name

end LogPath

end MemoryProbe
