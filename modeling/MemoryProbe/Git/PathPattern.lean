import MemoryProbe.Git.Glob

namespace MemoryProbe.Git

/-- The pattern of a rule about files. A slash before its end ties a pattern to the
folder of its rule, and a slash at the end restricts it to folders. -/
structure PathPattern where
  folderOnly : Bool
  anchored : Bool
  text : Bytes
  deriving DecidableEq, Repr

namespace PathPattern

def isBlank (value : UInt8) : Bool :=
  value = 32 || value = 9

def isSpace (value : UInt8) : Bool :=
  value = 32 || (9 ≤ value && value ≤ 13)

/-! ## Reading a pattern -/

/-- Blanks at the end, unless the last one left is escaped; the text is reversed. -/
def dropBlanksBack : Bytes → Bytes
  | [] => []
  | value :: rest =>
      if isBlank value && (rest.takeWhile (· = Glob.backslash)).length % 2 = 0 then
        dropBlanksBack rest
      else value :: rest

def dropReturnBack : Bytes → Bytes
  | 13 :: rest => rest
  | text => text

def trimmedBack (text : Bytes) : Bytes :=
  dropBlanksBack (dropReturnBack text.reverse)

/-- A space needs no escape once its pattern is cut; a backslash with nothing after it
goes too. -/
def unescapeSpaces : Bytes → Bytes
  | [] => []
  | [92] => []
  | 92 :: value :: rest =>
      if isSpace value then value :: unescapeSpaces rest
      else Glob.backslash :: value :: unescapeSpaces rest
  | value :: rest => value :: unescapeSpaces rest

/-- A pattern that is only slashes keeps no text, and is a pattern all the same. -/
def ofText? (body : Bytes) : Option PathPattern :=
  let (rooted, body) := match body with
    | 47 :: body => (true, body)
    | body => (false, body)
  match trimmedBack body with
  | [] => none
  | 47 :: back => some {
      folderOnly := true
      anchored := rooted || back.contains Glob.slash
      text := unescapeSpaces back.reverse }
  | back => some {
      folderOnly := false
      anchored := rooted || back.contains Glob.slash
      text := unescapeSpaces back.reverse }

/-! ## Covering paths -/

def join (path : List Bytes) : Bytes :=
  List.intercalate [Glob.slash] path

/-- An anchored pattern is held against the path from its folder on, any other only
against the last name. -/
def covers (pattern : PathPattern) (path : List Bytes) (isFolder : Bool) : Bool :=
  (isFolder || !pattern.folderOnly) &&
    Glob.matchesText pattern.anchored pattern.text
      (if pattern.anchored then join path else path.getLastD [])

def hasWildcard (pattern : PathPattern) : Bool :=
  go pattern.text
where
  go : Bytes → Bool
    | [] => false
    | 92 :: _ :: rest => go rest
    | value :: rest => value = 42 || value = 63 || value = 91 || go rest

def dropMark : Bytes → Bytes
  | 0xEF :: 0xBB :: 0xBF :: content => content
  | content => content

/-- A byte order mark is no part of the first rule, and a zero byte ends the file. -/
def rulesOf (content : Bytes) : Bytes :=
  (dropMark content).takeWhile (· ≠ 0)

def nextLine (content : Bytes) : Bytes :=
  (content.dropWhile (· ≠ 10)).dropWhile fun value => value = 10 || value = 13

/-- A text up to the first byte that `stops`, unless a backslash precedes it. -/
def splitAt (stops : UInt8 → Bool) : Bytes → Bytes × Bytes
  | [] => ([], [])
  | [92] => ([92], [])
  | 92 :: value :: rest =>
      let (text, left) := splitAt stops rest
      (92 :: value :: text, left)
  | value :: rest =>
      if stops value then ([], value :: rest)
      else
        let (text, left) := splitAt stops rest
        (value :: text, left)

end PathPattern

end MemoryProbe.Git
