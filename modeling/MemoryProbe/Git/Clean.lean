import MemoryProbe.Git.Attributes

namespace MemoryProbe.Git

/-! ## Stored content

What is stored of a file can differ from the file: where its attributes ask for it,
the text of an `$Id$` mark is left out, and line ends lose their carriage return. -/

namespace Clean

/-! ## Texts

A text has no zero byte, and at most one byte in 128 that cannot be printed. -/

def isPrintable (value : UInt8) : Bool :=
  31 < value && value ≠ 127

def mostlyPrintable (printable others : Nat) : Bool :=
  others ≤ printable / 128

/-- Marks are looked for in texts, where white space counts neither way. -/
def hasMarks (content : Bytes) : Bool :=
  let body := PathPattern.dropMark content
  let shown (value : UInt8) := isPrintable value || value = 8 || value = 27 || value = 12
  !body.contains 0 && mostlyPrintable (body.countP shown)
    (body.countP fun value => !shown value && !PathPattern.isSpace value)

/-- The end-of-file sign at the end does not count. -/
def dropEndSign (content : Bytes) : Bytes :=
  if content.getLast? = some 26 then content.dropLast else content

/-- A carriage return that ends no line. -/
def hasBareReturn : Bytes → Bool
  | [] => false
  | 13 :: 10 :: rest => hasBareReturn rest
  | value :: rest => value = 13 || hasBareReturn rest

/-- Lines are looked for in texts, where line ends count neither way. -/
def hasLines (content : Bytes) : Bool :=
  let body := dropEndSign content
  let shown (value : UInt8) :=
    isPrintable value || value = 8 || value = 9 || value = 11 || value = 12 || value = 27
  !body.contains 0 && !hasBareReturn body && mostlyPrintable (body.countP shown)
    (body.countP fun value => !shown value && value ≠ 10 && value ≠ 13)

/-! ## Marks

A mark runs from `$Id` to the next dollar sign. -/

def dollar : UInt8 := 36

def startsMark : Bytes → Bool
  | 73 :: 100 :: _ => true
  | _ => false

/-- What comes before a mark and what follows its first dollar sign. A dollar sign
with three bytes after it is taken for one. -/
def findMark (before : Bytes) : Bytes → Option (Bytes × Bytes)
  | [] => none
  | value :: rest =>
      if value ≠ dollar then findMark (value :: before) rest
      else if rest.length < 3 then none
      else if startsMark rest || rest.length = 3 then some (before.reverse, rest)
      else findMark (value :: before) rest

def emptyMark : Bytes := Bytes.ofString "$Id$"

def withoutMark (content : Bytes) : Bytes :=
  if content.length ≤ 3 then content
  else
    match findMark [] content with
    | none => content
    | some (before, rest) =>
        match (rest.drop 2).dropWhile (· ≠ dollar) with
        | [] => content
        | _ :: after => before ++ emptyMark ++ after

/-! ## Line ends -/

inductive LineEnds where
  | keep
  | convert
  | detect
  deriving DecidableEq, Repr

def lineEndsOf : Option AttributeValue → Option LineEnds
  | some .set => some .convert
  | some .cleared => some .keep
  | some (.text value) =>
      if value = Bytes.ofString "input" then some .convert
      else if value = Bytes.ofString "auto" then some .detect
      else none
  | _ => none

def asksForEnds : Option AttributeValue → Bool
  | some (.text value) => value = Bytes.ofString "lf" || value = Bytes.ofString "crlf"
  | _ => false

/-- The attribute `text` decides, or else the older `crlf`, or else that line ends of
some kind are asked for. -/
def lineEnds (valueOf : String → Option AttributeValue) : LineEnds :=
  ((lineEndsOf (valueOf "text")).or (lineEndsOf (valueOf "crlf"))).getD
    (if asksForEnds (valueOf "eol") then .convert else .keep)

def withoutReturns : Bytes → Bytes
  | [] => []
  | 13 :: 10 :: rest => 10 :: withoutReturns rest
  | value :: rest => value :: withoutReturns rest

/-- What is stored already tells whether returns belong to the text. -/
def withLineEnds (ends : LineEnds) (stored : Option Bytes) (content : Bytes) : Bytes :=
  match ends with
  | .keep => content
  | .convert => withoutReturns content
  | .detect =>
      if hasLines content && !stored.any (·.contains 13) then withoutReturns content
      else content

def content (valueOf : String → Option AttributeValue) (stored : Option Bytes)
    (content : Bytes) : Bytes :=
  let unmarked :=
    if valueOf "ident" = some .set && hasMarks content then withoutMark content
    else content
  withLineEnds (lineEnds valueOf) stored unmarked

end Clean

end MemoryProbe.Git
