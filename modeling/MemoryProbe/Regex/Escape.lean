import MemoryProbe.Regex.Scope

namespace MemoryProbe.Regex

/-- One character of a pattern, or an escape, stands for itself, for a set, or for a
place in the text. -/
inductive Item where
  | literal (value : Char)
  | set
  | place
  | wordBoundary
  deriving DecidableEq, Repr

namespace Escape

/-! ## Characters by number -/

def hexValue? (digit : Char) : Option Nat :=
  if digit.isDigit then some (digit.toNat - '0'.toNat)
  else if 'a' ≤ digit ∧ digit ≤ 'f' then some (digit.toNat - 'a'.toNat + 10)
  else if 'A' ≤ digit ∧ digit ≤ 'F' then some (digit.toNat - 'A'.toNat + 10)
  else none

def hexNumber? (scope : Scope) : Nat → Nat → List Char → Option (Nat × List Char)
  | 0, value, text => some (value, text)
  | _ + 1, _, [] => none
  | count + 1, value, digit :: rest =>
      (hexValue? digit).bind fun worth =>
        hexNumber? scope count (16 * value + worth) (scope.skip rest)

def isCharacter (value : Nat) : Bool :=
  value < 0xD800 || (0xDFFF < value && value < 0x110000)

def numbered? (scope : Scope) (count : Nat) (text : List Char) :
    Option (Item × List Char) :=
  match hexNumber? scope count 0 (scope.skip text) with
  | none => none
  | some (value, rest) =>
      if isCharacter value then some (.literal (Char.ofNat value), rest) else none

/-- A number of two digits is a byte where there is no Unicode, and a byte has to be
ASCII. -/
def byte? (scope : Scope) (text : List Char) : Option (Item × List Char) :=
  (numbered? scope 2 text).filter fun (item, _) =>
    match item with
    | .literal value => scope.unicode || value.toNat < 0x80
    | _ => true

def categories : List Char := ['C', 'L', 'M', 'N', 'P', 'S', 'Z']

/-- A general category is named by one letter. -/
def category? (scope : Scope) (text : List Char) : Option (Item × List Char) :=
  match scope.skip text with
  | [] => none
  | letter :: rest =>
      if scope.unicode && categories.contains letter.toUpper then
        some (.set, scope.skip rest)
      else none

/-! ## Escapes -/

def isSign (character : Char) : Bool :=
  character.toNat < 0x80 && !character.isAlphanum && character != '<' && character != '>'

def boundary (scope : Scope) : Item :=
  if scope.unicode then .wordBoundary else .place

/-- What follows a backslash. Signs stand for themselves; angles are places. -/
def read? (scope : Scope) : List Char → Option (Item × List Char)
  | [] => none
  | 'x' :: rest => byte? scope rest
  | 'u' :: rest => numbered? scope 4 rest
  | 'U' :: rest => numbered? scope 8 rest
  | 'p' :: rest | 'P' :: rest => category? scope rest
  | 'd' :: rest | 's' :: rest | 'w' :: rest => some (.set, rest)
  | 'D' :: rest | 'S' :: rest | 'W' :: rest =>
      if scope.unicode then some (.set, rest) else none
  | 'a' :: rest => some (.literal '\x07', rest)
  | 'f' :: rest => some (.literal '\x0c', rest)
  | 't' :: rest => some (.literal '\t', rest)
  | 'n' :: rest => some (.literal '\n', rest)
  | 'r' :: rest => some (.literal '\r', rest)
  | 'v' :: rest => some (.literal '\x0b', rest)
  | 'A' :: rest | 'z' :: rest => some (.place, rest)
  | 'b' :: rest | 'B' :: rest | '<' :: rest | '>' :: rest => some (boundary scope, rest)
  | character :: rest => if isSign character then some (.literal character, rest) else none

end Escape

end MemoryProbe.Regex
