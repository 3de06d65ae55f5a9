import MemoryProbe.Git.Object
import MemoryProbe.Git.PathPattern

namespace MemoryProbe.Git

/-! ## Attributes -/

/-- An attribute of a file is set, cleared or a text. One that is taken back is as one
that was never given, but ends the search for it. -/
inductive AttributeValue where
  | set
  | cleared
  | unspecified
  | text (value : Bytes)
  deriving DecidableEq, Repr

abbrev Assignments := List (Bytes × AttributeValue)

/-- A later assignment replaces an earlier one. -/
def Assignments.assign (assignments : Assignments) (name : Bytes) (value : AttributeValue) :
    Assignments :=
  assignments.filter (·.1 ≠ name) ++ [(name, value)]

/-- A macro gives a name to assignments, which come with the name where it is set. -/
abbrev Macros := List (Bytes × Assignments)

def Macros.builtIn : Macros :=
  [(Bytes.ofString "binary",
    ["diff", "merge", "text", "crlf"].map fun name => (Bytes.ofString name, .cleared))]

def Macros.assign (macros : Macros) (assignments : Assignments)
    (given : Bytes × AttributeValue) : Assignments :=
  let implied := if given.2 = .set then (macros.lookup given.1).getD [] else []
  (implied.foldl (fun assignments implied => assignments.assign implied.1 implied.2)
    assignments).assign given.1 given.2

namespace Assignments

def assignment? (word : Bytes) : Option (Bytes × AttributeValue) :=
  match word with
  | 45 :: body => named? .cleared body
  | 33 :: body => named? .unspecified body
  | body => named? .set body
where
  /-- What follows an equals sign is the value, unless it is empty. -/
  named? (value : AttributeValue) (body : Bytes) : Option (Bytes × AttributeValue) :=
    let name := body.takeWhile (· ≠ 61)
    if name = [] then none
    else
      match (body.dropWhile (· ≠ 61)).tail with
      | [] => some (name, value)
      | text => some (name, .text text)

def words (line : Bytes) : List Bytes :=
  (line.splitOnP PathPattern.isSpace).filter (· ≠ [])

/-- Assignments are the words of a line after its pattern, up to a word that starts a
comment. A word without a name counts for nothing. -/
def ofLine (macros : Macros) (line : Bytes) : Assignments :=
  (((words line).takeWhile fun word => word.head? ≠ some 35).filterMap assignment?).foldl
    macros.assign []

end Assignments

/-! ## Rules -/

structure AttributeRule where
  negated : Bool
  pattern : PathPattern
  assignments : Assignments
  deriving DecidableEq, Repr

namespace AttributeRule

def covers (rule : AttributeRule) (path : List Bytes) : Bool :=
  rule.pattern.covers path false != rule.negated

/-- The name of a macro stands in the place of a pattern, after a mark. -/
def macroMark : Bytes := Bytes.ofString "[attr]"

def dropMacroMark (content : Bytes) : Bool × Bytes :=
  if macroMark.isPrefixOf content then (true, content.drop macroMark.length)
  else (false, content)

def dropNegation : Bytes → Bool × Bytes
  | 33 :: content => (true, content)
  | content => (false, content)

/-- Macros and rules are read together, since macros count from their line on, and
only in the topmost folder. A line without assignments counts for nothing, and one
without a pattern goes on as a new line. Every round takes at least one byte, so the
length of the content is fuel enough. -/
def readWithin (isTop : Bool) :
    Nat → Macros → List AttributeRule → Bytes → Macros × List AttributeRule
  | 0, macros, rules, _ => (macros, rules)
  | fuel + 1, macros, rules, content =>
      match content.dropWhile PathPattern.isSpace with
      | [] => (macros, rules)
      | 35 :: rest => readWithin isTop fuel macros rules (PathPattern.nextLine rest)
      | content =>
          let (isMacro, content) := dropMacroMark content
          let (negated, content) := dropNegation content
          let (text, rest) := PathPattern.splitAt PathPattern.isSpace content
          match PathPattern.ofText? text with
          | none => readWithin isTop fuel macros rules rest
          | some pattern =>
              let next := PathPattern.nextLine rest
              match Assignments.ofLine macros (rest.takeWhile (· ≠ 10)) with
              | [] => readWithin isTop fuel macros rules next
              | assignments =>
                  if isMacro then
                    let known := if isTop then [(pattern.text, assignments)] else []
                    readWithin isTop fuel (known ++ macros) rules next
                  else
                    readWithin isTop fuel macros
                      (rules ++ [⟨negated, pattern, assignments⟩]) next

def ofContent (isTop : Bool) (macros : Macros) (content : Bytes) :
    Macros × List AttributeRule :=
  readWithin isTop (content.length + 1) macros [] (PathPattern.rulesOf content)

end AttributeRule

/-! ## Files of rules -/

/-- Rules are in the working tree and in the index, where they come second. -/
inductive Place where
  | workTree
  | index
  deriving DecidableEq, Repr

structure AttributeFile where
  place : Place
  folder : List Bytes
  content : Bytes
  rules : List AttributeRule
  deriving DecidableEq, Repr

/-- A file is read once and again only when it has changed, and a macro that has been
read stays known. -/
structure AttributeCache where
  macros : Macros
  files : List AttributeFile
  deriving DecidableEq, Repr

namespace AttributeCache

def fresh : AttributeCache := ⟨.builtIn, []⟩

def fileName : Bytes := Bytes.ofString ".gitattributes"

def isOf (place : Place) (folder : List Bytes) (file : AttributeFile) : Bool :=
  file.place = place && file.folder = folder

def load (cache : AttributeCache) (place : Place) (folder : List Bytes) (content : Bytes) :
    AttributeCache × List AttributeRule :=
  match cache.files.find? fun file => isOf place folder file && file.content = content with
  | some file => (cache, file.rules)
  | none =>
      let (macros, rules) := AttributeRule.ofContent (folder = []) cache.macros content
      let others := cache.files.filter fun file => !isOf place folder file
      (⟨macros, ⟨place, folder, content, rules⟩ :: others⟩, rules)

def read (cache : AttributeCache) (place : Place) (files : Files) (folder : List Bytes) :
    AttributeCache × List AttributeRule :=
  match files.content? (folder ++ [fileName]) with
  | none => (cache, [])
  | some content => cache.load place folder content

/-! ## Attributes of a path -/

/-- Rules with the folder they are tied to, those that decide first coming first. -/
structure FolderRules where
  folder : List Bytes
  rules : List AttributeRule
  deriving DecidableEq, Repr

def rulesIn (cache : AttributeCache) (workTree index : Files) (folder : List Bytes) :
    AttributeCache × FolderRules :=
  let (cache, working) := cache.read .workTree workTree folder
  let (cache, staged) := cache.read .index index folder
  (cache, ⟨folder, working.reverse ++ staged.reverse⟩)

/-- The folders of a path, the nearest first. -/
def folders (path : List Bytes) : List (List Bytes) :=
  (List.range path.length).reverse.map path.take

/-- The topmost folder is read first, since its macros count everywhere. -/
def rulesFor (cache : AttributeCache) (workTree index : Files) (path : List Bytes) :
    AttributeCache × List FolderRules :=
  (folders path).foldl
    (fun (cache, found) folder =>
      let (cache, rules) := cache.rulesIn workTree index folder
      (cache, found ++ [rules]))
    ((cache.rulesIn workTree index []).1, [])

/-- The first rule that has a say decides; a value that was taken back is none. -/
def value? (found : List FolderRules) (path : List Bytes) (name : String) :
    Option AttributeValue :=
  (found.findSome? fun place => place.rules.findSome? fun rule =>
    if rule.covers (path.drop place.folder.length) then
      rule.assignments.lookup (Bytes.ofString name)
    else none).filter (· ≠ .unspecified)

end AttributeCache

end MemoryProbe.Git
