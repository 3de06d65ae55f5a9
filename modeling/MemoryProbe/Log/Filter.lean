import MemoryProbe.Bytes.Utf8
import MemoryProbe.Log.Directive
import MemoryProbe.Log.Event

namespace MemoryProbe.Log

/-! ## Filters -/

/-- Events are outside all spans, so only directives without a span and without field
values decide about them. -/
structure EventDirective where
  target : Option String
  fields : List String
  detail : Nat
  deriving DecidableEq, Repr

def Directive.forEvents? (directive : Directive) : Option EventDirective :=
  if directive.span.isSome || directive.fields.any (·.hasValue) then none
  else some ⟨directive.target, directive.fields.map (·.name), directive.detail⟩

namespace EventDirective

/-- A target covers every target that begins with it, and named fields have to be
there. Each event has its message for a field. -/
def covers (directive : EventDirective) (event : Event) : Bool :=
  directive.target.all (fun target => target.toList.isPrefixOf event.target.toList) &&
    directive.fields.all (("message" :: event.fields.map (·.name)).contains ·)

def targetSize (directive : EventDirective) : Nat :=
  directive.target.elim 0 fun target => target.utf8ByteSize + 1

/-- More specific directives come first: those with the longer target, then those with
more fields. What is left is settled by the texts themselves. -/
def rank (left right : EventDirective) : Ordering :=
  (((compare right.targetSize left.targetSize).then
    (compare right.fields.length left.fields.length)).then
    (compare (right.target.getD "") (left.target.getD ""))).then
    (compare right.fields left.fields)

def isFor (left right : EventDirective) : Bool :=
  left.target = right.target && left.fields = right.fields

/-- A later directive for the same events replaces an earlier one. -/
def insert (directive : EventDirective) : List EventDirective → List EventDirective
  | [] => [directive]
  | head :: tail =>
      if directive.isFor head then directive :: tail
      else if rank directive head = .lt then directive :: head :: tail
      else head :: directive.insert tail

end EventDirective

structure Filter where
  directives : List EventDirective
  deriving DecidableEq, Repr

namespace Filter

def allows (filter : Filter) (event : Event) : Bool :=
  match filter.directives.find? (·.covers event) with
  | some directive => event.level.detail ≤ directive.detail
  | none => false

/-- Without any directive, events from the level `INFO` upwards are let through. -/
def standard : Filter := ⟨[⟨none, [], Level.info.detail⟩]⟩

def ofDirectives (directives : List Directive) : Filter :=
  if directives = [] then standard
  else
    let plain := directives.filter (·.fields = [])
    let withFields := directives.filter (·.fields ≠ [])
    ⟨((plain ++ withFields).filterMap Directive.forEvents?).foldl
      (fun sorted directive => directive.insert sorted) []⟩

/-! ## The filter of the environment -/

/-- Directives are separated by commas. One that cannot be read is left out with a
complaint, and one that breaks off ends the reading: then there is no filter. -/
structure Setup where
  filter : Option Filter
  complaints : List String
  deriving DecidableEq, Repr

def pieces (value : String) : List String :=
  ((value.toList.splitOn ',').filter (· ≠ [])).map String.ofList

def complaint (piece : String) (error : DirectiveError) : String :=
  "ignoring `" ++ piece ++ "`: " ++ error.message

/-- What has been read so far is kept with the latest first. -/
def readPieces (directives : List Directive) (complaints : List String) :
    List String → Setup
  | [] => ⟨some (ofDirectives directives.reverse), complaints.reverse⟩
  | piece :: rest =>
      match Directive.parse piece with
      | .ok directive => readPieces (directive :: directives) complaints rest
      | .error (.refused error) =>
          readPieces directives (complaint piece error :: complaints) rest
      | .error .broken => ⟨none, complaints.reverse⟩

def ofText (value : String) : Setup :=
  readPieces [] [] (pieces value)

/-- A variable that is not set, or no text, gives the standard filter. -/
def ofVariable (value : Option Bytes) : Setup :=
  ofText ((value.bind Bytes.toString?).getD "")

end Filter

end MemoryProbe.Log
