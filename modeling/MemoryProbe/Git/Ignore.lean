import MemoryProbe.Git.Object
import MemoryProbe.Git.PathPattern

namespace MemoryProbe.Git

/-- A rule excludes what its pattern covers, and with an exclamation mark it takes back
what rules before it exclude. -/
structure IgnoreRule where
  negated : Bool
  pattern : PathPattern
  deriving DecidableEq, Repr

namespace IgnoreRule

/-! ## Taking back

A rule that takes back and has no wildcard counts only where a rule before it in the
same file could exclude what it names. With a wildcard that is settled by matching,
where the folder of the file is part of the pattern and of the name. -/

def below (folder : List Bytes) (text : Bytes) : Bytes :=
  folder.flatMap (· ++ [Glob.slash]) ++ text

/-- The longer text ends in a slash and the shorter one, which has none. -/
def isLastPart (shorter longer : Bytes) : Bool :=
  (Glob.slash :: shorter).isSuffixOf longer && !shorter.contains Glob.slash

def couldExclude (folder : List Bytes) (earlier : IgnoreRule) (text : Bytes) : Bool :=
  if earlier.pattern.hasWildcard then
    Glob.matchesText earlier.pattern.anchored (below folder earlier.pattern.text)
      (below folder text)
  else !earlier.negated && (earlier.pattern.text = text ||
    isLastPart earlier.pattern.text text || isLastPart text earlier.pattern.text)

def isIdle (folder : List Bytes) (earlier : List IgnoreRule) (rule : IgnoreRule) : Bool :=
  rule.negated && !rule.pattern.hasWildcard &&
    !earlier.any (·.couldExclude folder rule.pattern.text)

def isLineEnd (value : UInt8) : Bool :=
  10 ≤ value && value ≤ 12

def add (folder : List Bytes) (earlier : List IgnoreRule) (negated : Bool) (line : Bytes) :
    List IgnoreRule :=
  match PathPattern.ofText? line with
  | none => earlier
  | some pattern =>
      if isIdle folder earlier ⟨negated, pattern⟩ then earlier
      else earlier ++ [⟨negated, pattern⟩]

/-- Every round takes at least one byte, so the length of the content is fuel
enough. -/
def readWithin (folder : List Bytes) : Nat → List IgnoreRule → Bytes → List IgnoreRule
  | 0, earlier, _ => earlier
  | fuel + 1, earlier, content =>
      match content with
      | [] => earlier
      | 10 :: _ | 35 :: _ => readWithin folder fuel earlier (PathPattern.nextLine content)
      | 33 :: body =>
          let (line, left) := PathPattern.splitAt isLineEnd body
          readWithin folder fuel (add folder earlier true line) (PathPattern.nextLine left)
      | body =>
          let (line, left) := PathPattern.splitAt isLineEnd body
          readWithin folder fuel (add folder earlier false line) (PathPattern.nextLine left)

/-- One rule a line; a line break after a backslash belongs to its line. -/
def ofContent (folder : List Bytes) (content : Bytes) : List IgnoreRule :=
  readWithin folder content.length [] (PathPattern.rulesOf content)

end IgnoreRule

namespace Ignore

/-! ## Ignored paths -/

def fileName : Bytes := Bytes.ofString ".gitignore"

def rulesIn (files : Files) (folder : List Bytes) : List IgnoreRule :=
  ((files.content? (folder ++ [fileName])).map (IgnoreRule.ofContent folder)).getD []

/-- The last rule of a folder that covers the path decides for that folder. -/
def verdictIn? (files : Files) (path : List Bytes) (isFolder : Bool) (folder : List Bytes) :
    Option Bool :=
  ((rulesIn files folder).reverse.find? fun rule =>
    rule.pattern.covers (path.drop folder.length) isFolder).map fun rule => !rule.negated

/-- The beginnings of a path, the whole of it first. -/
def beginnings (path : List Bytes) : List (List Bytes) :=
  (List.range (path.length + 1)).reverse.map path.take

/-- The folder of the repository's own data. -/
def ownFolder : Bytes := Bytes.ofString ".git"

/-- The folder nearest to the path that has a verdict decides. -/
def verdict? (files : Files) (path : List Bytes) (isFolder : Bool) : Option Bool :=
  if path.getLast? = some ownFolder then some true
  else (beginnings path.dropLast).findSome? (verdictIn? files path isFolder)

/-- Down the rest of a path: where there is no verdict, the folder above has the
say, and an excluded folder is not entered unless it holds a tracked file. -/
def isIgnoredFrom (files tracked : Files) (folder : List Bytes) (excluded : Bool) :
    List Bytes → Bool
  | [] => excluded
  | [name] => (verdict? files (folder ++ [name]) false).getD excluded
  | name :: rest =>
      let here := folder ++ [name]
      let excluded := (verdict? files here true).getD excluded
      (excluded && !tracked.any fun file => here.isPrefixOf file.path) ||
        isIgnoredFrom files tracked here excluded rest

/-- The working tree as a whole can be excluded by its own rules, and is entered all
the same. -/
def isIgnored (files tracked : Files) (path : List Bytes) : Bool :=
  isIgnoredFrom files tracked [] ((verdict? files [] true).getD false) path

end Ignore

end MemoryProbe.Git
