import MemoryProbe.Regex.Escape

namespace MemoryProbe.Regex

/-! ## Sets in brackets -/

/-- A set lists characters, ranges and further sets, and sets can be joined by the
operators `&&`, `--` and `~~`. Only the depth of the result is kept: every bracket,
every operator and every list of several members is a level. -/
structure Bracket where
  left : Option Nat
  count : Nat
  depth : Nat
  deriving DecidableEq, Repr

namespace Bracket

def empty : Bracket := ⟨none, 0, 0⟩

def add (bracket : Bracket) (depth : Nat) : Bracket :=
  { bracket with count := bracket.count + 1, depth := max bracket.depth depth }

def operandDepth (bracket : Bracket) : Nat :=
  if 1 < bracket.count then bracket.depth + 1 else bracket.depth

def innerDepth (bracket : Bracket) : Nat :=
  match bracket.left with
  | none => bracket.operandDepth
  | some left => max left bracket.operandDepth + 1

def operate (bracket : Bracket) : Bracket :=
  ⟨some bracket.innerDepth, 0, 0⟩

def closedDepth (bracket : Bracket) : Nat :=
  bracket.innerDepth + 1

/-- Outside Unicode a set holds ASCII characters only. -/
def member? (scope : Scope) : List Char → Option (Item × List Char)
  | [] => none
  | '\\' :: rest => (Escape.read? scope rest).filter fun (item, _) => isMember item
  | character :: rest => (some (.literal character, rest)).filter fun (item, _) =>
      isMember item
where
  isMember : Item → Bool
    | .literal value => scope.unicode || value.toNat < 0x80
    | .set => true
    | .place => false
    | .wordBoundary => false

def ordered : Item → Item → Bool
  | .literal first, .literal last => first.toNat ≤ last.toNat
  | _, _ => false

/-- A dash between two characters makes a range, but not before the end of the set
and not before another dash. What follows the member or the range is left. -/
def range? (scope : Scope) (text : List Char) : Option (List Char) :=
  match member? scope text with
  | none => none
  | some (first, rest) =>
      match scope.skip rest with
      | '-' :: after =>
          if scope.ahead after = some ']' || scope.ahead after = some '-' then
            some ('-' :: after)
          else
            match member? scope (scope.skip after) with
            | none => none
            | some (last, rest) => if ordered first last then some rest else none
      | rest => some rest

def names : List String :=
  ["alnum", "alpha", "ascii", "blank", "cntrl", "digit", "graph", "lower", "print",
    "punct", "space", "upper", "word", "xdigit"]

/-- A name between `[:` and `:]`, where the bracket has been taken; the flag tells
whether the name is negated. -/
def named? : List Char → Option (Bool × List Char)
  | ':' :: '^' :: rest => (close? rest).map fun rest => (true, rest)
  | ':' :: rest => (close? rest).map fun rest => (false, rest)
  | _ => none
where
  close? (text : List Char) : Option (List Char) :=
    match text.dropWhile (· ≠ ':') with
    | ':' :: ']' :: rest =>
        if names.contains (String.ofList (text.takeWhile (· ≠ ':'))) then some rest else none
    | _ => none

def takeDashes (scope : Scope) (bracket : Bracket) (text : List Char) :
    Bracket × List Char :=
  match text with
  | '-' :: rest => takeDashes scope (bracket.add 0) (scope.skip rest)
  | text => (bracket, text)
termination_by text.length
decreasing_by exact Nat.lt_succ_of_le (Scope.length_skip_le scope rest)

def afterSign (scope : Scope) (text : List Char) : Bracket × List Char :=
  match takeDashes scope empty text with
  | (bracket, ']' :: rest) =>
      if bracket.count = 0 then (bracket.add 0, scope.skip rest) else (bracket, ']' :: rest)
  | opened => opened

/-- A circumflex negates the set, dashes that come first are members, and so is a closing
bracket that comes first. The complement of a set of bytes is never ASCII. -/
def open? (scope : Scope) (text : List Char) : Option (Bracket × List Char) :=
  match scope.skip text with
  | '^' :: rest => if scope.unicode then some (afterSign scope (scope.skip rest)) else none
  | text => some (afterSign scope text)

/-- The innermost open bracket comes first, then those around it. Every round takes at
least one character, so the length of the text is fuel enough. -/
def readWithin (scope : Scope) : Nat → Bracket → List Bracket → List Char →
    Option (Nat × List Char)
  | 0, _, _, _ => none
  | fuel + 1, inner, outer, text =>
      match scope.skip text with
      | [] => none
      | '[' :: rest =>
          match named? rest with
          | some (negated, rest) =>
              if negated && !scope.unicode then none
              else readWithin scope fuel (inner.add 0) outer rest
          | none =>
              match open? scope rest with
              | none => none
              | some (opened, rest) => readWithin scope fuel opened (inner :: outer) rest
      | ']' :: rest =>
          match outer with
          | [] => some (inner.closedDepth, rest)
          | parent :: outer =>
              readWithin scope fuel (parent.add inner.closedDepth) outer rest
      | '&' :: '&' :: rest => readWithin scope fuel inner.operate outer rest
      | '-' :: '-' :: rest => readWithin scope fuel inner.operate outer rest
      | '~' :: '~' :: rest => readWithin scope fuel inner.operate outer rest
      | text =>
          match range? scope text with
          | none => none
          | some rest => readWithin scope fuel (inner.add 0) outer rest

/-- The depth of a set and what follows it; its first bracket has been taken. -/
def read? (scope : Scope) (text : List Char) : Option (Nat × List Char) :=
  match open? scope text with
  | none => none
  | some (opened, rest) => readWithin scope (rest.length + 1) opened [] rest

end Bracket

end MemoryProbe.Regex
