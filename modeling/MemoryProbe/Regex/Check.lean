import MemoryProbe.Regex.Bracket
import MemoryProbe.Text.Numeric

namespace MemoryProbe.Regex

/-! ## Sequences -/

/-- The items of a branch so far: how many there are, the depth of those before the last
one and of the last one, and whether that one can be repeated. -/
structure Sequence where
  count : Nat
  earlier : Nat
  last : Nat
  repeatable : Bool
  deriving DecidableEq, Repr

namespace Sequence

def empty : Sequence := ⟨0, 0, 0, false⟩

def add (items : Sequence) (depth : Nat) : Sequence :=
  ⟨items.count + 1, max items.earlier items.last, depth, true⟩

/-- Flags are an item, but nothing that can be repeated. -/
def addFlags (items : Sequence) : Sequence :=
  { items.add 0 with repeatable := false }

def repeat? (items : Sequence) : Option Sequence :=
  if items.repeatable then some { items with last := items.last + 1 } else none

def depth (items : Sequence) : Nat :=
  if 1 < items.count then max items.earlier items.last + 1 else items.last

end Sequence

/-! ## Groups -/

/-- A group has a scope, the depth of its finished branches, and the branch being read. -/
structure Group where
  scope : Scope
  finished : Option Nat
  items : Sequence
  deriving DecidableEq, Repr

namespace Group

def opened (scope : Scope) : Group := ⟨scope, none, .empty⟩

def add (group : Group) (depth : Nat) : Group :=
  { group with items := group.items.add depth }

def branch (group : Group) : Group :=
  ⟨group.scope, some (max (group.finished.getD 0) group.items.depth), .empty⟩

def depth (group : Group) : Nat :=
  match group.finished with
  | none => group.items.depth
  | some finished => max finished group.items.depth + 1

def flagSigns : List Char := ['i', 'm', 's', 'U', 'u', 'R', 'x', '-']

/-- Flags after a dash are taken back. No sign comes twice, and the dash is not the
last. -/
def areFlags (signs : List Char) : Bool :=
  signs.all flagSigns.contains && decide signs.Nodup && signs.getLast? != some '-'

def flagOr (signs : List Char) (flag : Char) (otherwise : Bool) : Bool :=
  if signs.contains flag then !(signs.takeWhile (· ≠ flag)).contains '-' else otherwise

def withFlags (scope : Scope) (signs : List Char) : Scope :=
  ⟨flagOr signs 'x' scope.verbose, flagOr signs 'u' scope.unicode⟩

def isNameStart (character : Char) : Bool :=
  character = '_' || Text.isAlphabetic character

def isNamePart (character : Char) : Bool :=
  character = '_' || character = '.' || character = '[' || character = ']' ||
    Text.isLetterOrNumber character

def isName : List Char → Bool
  | [] => false
  | first :: rest => isNameStart first && rest.all isNamePart

/-! ## Openings -/

/-- What comes after an opening parenthesis: a group, which may have a name or flags of
its own, or flags for the rest of the group around it. -/
inductive Opening where
  | plain
  | named (name : List Char)
  | flagged (signs : List Char)
  | flags (signs : List Char)
  deriving DecidableEq, Repr

def namedOpening? (text : List Char) : Option (Opening × List Char) :=
  let name := text.takeWhile (· ≠ '>')
  match text.dropWhile (· ≠ '>') with
  | [] => none
  | _ :: rest => if isName name then some (.named name, rest) else none

def flagOpening? (text : List Char) : Option (Opening × List Char) :=
  let signs := text.takeWhile fun character => character ≠ ')' && character ≠ ':'
  if areFlags signs then
    match text.drop signs.length with
    | ':' :: rest => some (.flagged signs, rest)
    | ')' :: rest => if signs = [] then none else some (.flags signs, rest)
    | _ => none
  else none

/-- Groups that would look around are not known. -/
def opening? : List Char → Option (Opening × List Char)
  | '?' :: 'P' :: '<' :: rest => namedOpening? rest
  | '?' :: '<' :: rest => namedOpening? rest
  | '?' :: rest => flagOpening? rest
  | rest => some (.plain, rest)

end Group

/-! ## Reading a pattern -/

/-- The group being read, those around it with the innermost first, the names given so
far, and whether a word boundary has come. -/
structure Progress where
  group : Group
  outer : List Group
  names : List (List Char)
  hasBoundary : Bool
  deriving DecidableEq, Repr

namespace Progress

def start : Progress := ⟨.opened .outermost, [], [], false⟩

def scope (progress : Progress) : Scope :=
  progress.group.scope

def add (progress : Progress) (depth : Nat) : Progress :=
  { progress with group := progress.group.add depth }

def addItem (progress : Progress) (item : Item) : Progress :=
  { progress.add 0 with hasBoundary := progress.hasBoundary || item = .wordBoundary }

def enter (progress : Progress) (scope : Scope) : Progress :=
  { progress with group := .opened scope, outer := progress.group :: progress.outer }

def open? (progress : Progress) : Group.Opening → Option Progress
  | .plain => some (progress.enter progress.scope)
  | .named name =>
      if progress.names.contains name then none
      else some { progress.enter progress.scope with names := name :: progress.names }
  | .flagged signs => some (progress.enter (Group.withFlags progress.scope signs))
  | .flags signs => some { progress with group :=
      { progress.group with
        scope := Group.withFlags progress.scope signs
        items := progress.group.items.addFlags } }

def close? (progress : Progress) : Option Progress :=
  match progress.outer with
  | [] => none
  | parent :: outer => some { progress with
      group := parent.add (progress.group.depth + 1), outer }

def repeat? (progress : Progress) : Option Progress :=
  progress.group.items.repeat?.map fun items =>
    { progress with group := { progress.group with items } }

/-- A question mark right after a repetition belongs to it. -/
def afterRepetition : List Char → List Char
  | '?' :: rest => rest
  | rest => rest

/-- One step through a text that is not empty and starts with nothing to skip. A
brace never counts a repetition, since no pattern holds the brace that closes it. -/
def step? (progress : Progress) : List Char → Option (Progress × List Char)
  | [] => none
  | '(' :: rest =>
      (Group.opening? (progress.scope.skip rest)).bind fun (opening, rest) =>
        (progress.open? opening).map fun progress => (progress, rest)
  | ')' :: rest => progress.close?.map fun progress => (progress, rest)
  | '|' :: rest => some ({ progress with group := progress.group.branch }, rest)
  | '[' :: rest =>
      (Bracket.read? progress.scope rest).map fun (depth, rest) =>
        (progress.add depth, rest)
  | '?' :: rest | '*' :: rest | '+' :: rest =>
      progress.repeat?.map fun progress => (progress, afterRepetition rest)
  | '{' :: _ => none
  | '\\' :: rest =>
      (Escape.read? progress.scope rest).map fun (item, rest) => (progress.addItem item, rest)
  | '.' :: rest => if progress.scope.unicode then some (progress.addItem .set, rest) else none
  | '^' :: rest | '$' :: rest => some (progress.addItem .place, rest)
  | character :: rest => some (progress.addItem (.literal character), rest)

/-- Every step takes at least one character, so the length of the text is fuel
enough. -/
def readWithin : Nat → Progress → List Char → Option Progress
  | fuel, progress, text =>
      match progress.scope.skip text with
      | [] => if progress.outer = [] then some progress else none
      | text =>
          match fuel with
          | 0 => none
          | fuel + 1 => (progress.step? text).bind fun (progress, rest) =>
              readWithin fuel progress rest

end Progress

/-! ## Checking a pattern -/

inductive Fault where
  | malformed
  | wordBoundary
  deriving DecidableEq, Repr

def Fault.message : Fault → String
  | .malformed => "error building NFA"
  | .wordBoundary =>
      "unsupported regex feature for DFAs: cannot build DFAs for regexes with Unicode word " ++
        "boundaries; switch to ASCII word boundaries, or heuristically enable Unicode word " ++
        "boundaries or use a different regex engine"

def maxDepth : Nat := 250

/-- A pattern is refused when it is malformed or nested too deeply, and when it asks for
word boundaries in Unicode text. -/
def fault? (pattern : List Char) : Option Fault :=
  match Progress.readWithin pattern.length .start pattern with
  | none => some .malformed
  | some progress =>
      if maxDepth < progress.group.depth then some .malformed
      else if progress.hasBoundary then some .wordBoundary
      else none

end MemoryProbe.Regex
