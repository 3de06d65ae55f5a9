namespace MemoryProbe.Text

/-! ## Text without terminal control

Escape sequences and control characters are left out of text that is shown, blanks
among them apart. A sequence ends with its final character, a control string with
its terminator, and either is broken off by an escape or by a blank control. -/

inductive ControlState where
  | ground
  | escape
  | escapeIntermediate
  | sequence
  | command
  | string
  deriving DecidableEq, Repr

def isBlankControl (character : Char) : Bool :=
  character = '\t' || character = '\n' || character = '\x0c' || character = '\r'

namespace ControlState

def inRange (character : Char) (first last : Nat) : Bool :=
  first ≤ character.toNat && character.toNat ≤ last

/-- The state after an escape character and one more. -/
def afterEscape (character : Char) : ControlState :=
  if inRange character 0x20 0x2F then .escapeIntermediate
  else if character = '[' then .sequence
  else if character = ']' then .command
  else if character = 'P' || character = 'X' || character = '^' || character = '_' then .string
  else if inRange character 0x30 0x7E then .ground
  else .escape

/-- The state after a character, and whether the character is shown. -/
def advance (state : ControlState) (character : Char) : ControlState × Bool :=
  if character = '\x1b' then (.escape, false)
  else if character = '\x18' || character = '\x1a' then (.ground, false)
  else
    match state with
    | .ground =>
        (.ground, isBlankControl character ||
          (0x20 ≤ character.toNat && character ≠ '\x7f'))
    | .escape =>
        if isBlankControl character then (.ground, true)
        else (afterEscape character, false)
    | .escapeIntermediate =>
        if isBlankControl character then (.ground, true)
        else (if inRange character 0x30 0x7E then .ground else .escapeIntermediate, false)
    | .sequence =>
        if isBlankControl character then (.ground, true)
        else (if inRange character 0x40 0x7E then .ground else .sequence, false)
    | .command => (if character = '\x07' then .ground else .command, false)
    | .string => (.string, false)

end ControlState

def printableFrom (state : ControlState) : List Char → List Char
  | [] => []
  | character :: rest =>
      let (next, isShown) := state.advance character
      if isShown then character :: printableFrom next rest else printableFrom next rest

def printable (text : String) : String :=
  String.ofList (printableFrom .ground text.toList)

def firstLine (text : String) : String :=
  String.ofList (text.toList.takeWhile (· != '\n'))

def lines (text : String) : List String :=
  (text.toList.splitOn '\n').map String.ofList

end MemoryProbe.Text
