import MemoryProbe.Regex.Check
import MemoryProbe.Text.Cut
import MemoryProbe.Text.Decimal
import MemoryProbe.Text.Fraction

namespace MemoryProbe.Log

/-! ## Filter directives -/

structure FieldPattern where
  name : String
  hasValue : Bool
  deriving DecidableEq, Repr

/-- A directive names a target, a span with fields, a level, or several of them:
`target[span{field=value}]=level`. A bare word is a level when it reads as one and a
target otherwise; a target without a level lets everything through. The value of a field
is a number or a pattern. -/
structure Directive where
  target : Option String
  span : Option String
  fields : List FieldPattern
  detail : Nat
  deriving DecidableEq, Repr

inductive DirectiveError where
  | invalid
  | badField (fault : Regex.Fault)
  | badLevel
  deriving DecidableEq, Repr

def DirectiveError.message : DirectiveError → String
  | .invalid => "invalid filter directive"
  | .badField fault => "invalid field filter: " ++ fault.message
  | .badLevel =>
      "error parsing level filter: expected one of \"off\", \"error\", \"warn\", " ++
        "\"info\", \"debug\", \"trace\", or a number 0-5"

/-- A directive can be refused, or its parts can fall in the middle of characters,
where reading breaks off. -/
inductive DirectiveFault where
  | refused (error : DirectiveError)
  | broken
  deriving DecidableEq, Repr

def everything : Nat := 5

def levelNames : List (String × Nat) :=
  [("off", 0), ("error", 1), ("warn", 2), ("info", 3), ("debug", 4), ("trace", 5)]

/-- Levels count from nothing at all to everything, and can be given as numbers. -/
def detail? (text : List Char) : Option Nat :=
  match Text.Decimal.natural (UInt64.size - 1) text with
  | .ok number => if number ≤ everything then some number else none
  | .error _ => levelNames.lookup (String.ofList (text.map Char.toLower))

namespace Directive

def blank : Directive := ⟨none, none, [], everything⟩

/-! ## Reading a directive -/

/-- The places of a directive are found in the text without the blanks around it, and
are then taken from the whole text, counted in bytes from its start. -/
inductive Place where
  | start
  | word
  | span (since : Nat)
  | field (since : Nat)
  | afterField
  | afterSpan
  | level (since : Nat)
  deriving DecidableEq, Repr

def invalid {Value : Type} : Except DirectiveFault Value :=
  .error (.refused .invalid)

def cut (taken : Option (List Char)) : Except DirectiveFault (List Char) :=
  match taken with
  | some characters => .ok characters
  | none => .error .broken

def slice (whole : List Char) (since index : Nat) : Except DirectiveFault (List Char) :=
  cut (Text.betweenBytes since index whole)

def canStart (character : Char) : Bool :=
  character = '-' || character = ':' || character = '_' || Text.isLetterOrNumber character

def valueFault? (value : List Char) : Option Regex.Fault :=
  if Text.Fraction.isNumber value then none else Regex.fault? value

/-- What comes after a second equals sign counts for nothing. -/
def fieldPattern (text : List Char) : Except DirectiveFault FieldPattern :=
  match text.splitOn '=' with
  | name :: value :: _ =>
      match valueFault? value with
      | some fault => .error (.refused (.badField fault))
      | none => .ok ⟨String.ofList name, true⟩
  | _ => .ok ⟨String.ofList text, false⟩

def addField (directive : Directive) (text : List Char) : Except DirectiveFault Directive :=
  if text = [] then invalid
  else (fieldPattern text).map fun field =>
    { directive with fields := directive.fields ++ [field] }

def withTarget (directive : Directive) (text : List Char) : Directive :=
  { directive with target := some (String.ofList text) }

def nonempty (text : List Char) : Option String :=
  if text = [] then none else some (String.ofList text)

def advance (whole : List Char) (directive : Directive) (place : Place) (index : Nat)
    (character : Char) : Except DirectiveFault (Directive × Place) :=
  match place, character with
  | .start, '[' => .ok (directive, .span (index + 1))
  | .start, character => if canStart character then .ok (directive, .word) else invalid
  | .word, '=' => (slice whole 0 index).map fun text =>
      (directive.withTarget text, .level (index + 1))
  | .word, '[' => (slice whole 0 index).map fun text =>
      (directive.withTarget text, .span (index + 1))
  | .word, _ => .ok (directive, .word)
  | .span since, ']' => (slice whole since index).map fun text =>
      ({ directive with span := some (String.ofList text) }, .afterSpan)
  | .span since, '{' => (slice whole since index).map fun text =>
      ({ directive with span := nonempty text }, .field (index + 1))
  | .span since, _ => .ok (directive, .span since)
  | .field since, '}' => (slice whole since index).bind fun text =>
      (directive.addField text).map fun directive => (directive, .afterField)
  | .field since, _ => .ok (directive, .field since)
  | .afterField, ']' => .ok (directive, .afterSpan)
  | .afterSpan, '=' => .ok (directive, .level (index + 1))
  | .level since, _ => .ok (directive, .level since)
  | _, _ => invalid

def withLevel (directive : Directive) (text : List Char) : Except DirectiveFault Directive :=
  if text = [] then .ok directive
  else
    match detail? text with
    | some detail => .ok { directive with detail }
    | none => .error (.refused .badLevel)

def finish (whole : List Char) (directive : Directive) :
    Place → Except DirectiveFault Directive
  | .word =>
      match detail? whole with
      | some detail => .ok { directive with detail }
      | none => .ok (directive.withTarget whole)
  | .level since => (cut (Text.dropBytes since whole)).bind directive.withLevel
  | .afterSpan => .ok directive
  | _ => invalid

def readFrom (whole : List Char) (directive : Directive) (place : Place) (index : Nat) :
    List Char → Except DirectiveFault Directive
  | [] => finish whole directive place
  | character :: rest =>
      match advance whole directive place index character with
      | .error fault => .error fault
      | .ok (directive, place) =>
          readFrom whole directive place (index + character.utf8Size) rest

def parse (text : String) : Except DirectiveFault Directive :=
  readFrom text.toList blank .start 0 (Text.trim text.toList)

end Directive

end MemoryProbe.Log
