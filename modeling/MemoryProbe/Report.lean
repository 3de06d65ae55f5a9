import MemoryProbe.Bytes.Utf8
import MemoryProbe.Snapshot.Json
import MemoryProbe.Snapshot.Text

namespace MemoryProbe

/-! ## Sinks -/

inductive SinkError where
  | full
  | flushFailed
  deriving DecidableEq, Repr

def SinkError.message : SinkError → String
  | .full => "sink full"
  | .flushFailed => "flush failed"

/-- A sink takes bytes up to its limit and a number of flushes up to another. A write
that crosses the limit is cut there and fails; writing nothing always works. -/
structure Sink where
  held : Bytes
  flushes : Nat
  byteLimit : Option Nat
  flushLimit : Option Nat
  deriving Repr

namespace Sink

def empty (byteLimit flushLimit : Option Nat) : Sink :=
  ⟨[], 0, byteLimit, flushLimit⟩

def room (sink : Sink) : Option Nat :=
  sink.byteLimit.map (· - sink.held.length)

def write (sink : Sink) (chunk : Bytes) : Sink × Option SinkError :=
  match sink.room with
  | none => ({ sink with held := sink.held ++ chunk }, none)
  | some room =>
      ({ sink with held := sink.held ++ chunk.take room },
        if chunk.length ≤ room then none else some .full)

def writeAll (sink : Sink) : List Bytes → Sink × Option SinkError
  | [] => (sink, none)
  | chunk :: rest =>
      match sink.write chunk with
      | (sink, none) => sink.writeAll rest
      | failed => failed

def flush (sink : Sink) : Sink × Option SinkError :=
  match sink.flushLimit with
  | some limit =>
      if sink.flushes < limit then ({ sink with flushes := sink.flushes + 1 }, none)
      else (sink, some .flushFailed)
  | none => ({ sink with flushes := sink.flushes + 1 }, none)

end Sink

/-! ## Reports

A snapshot is written in one of two formats, closed by a newline and flushed. The
failure of a report names the stage that failed. -/

namespace Report

inductive Format where
  | text
  | json
  deriving DecidableEq, Repr

def Format.name : Format → String
  | .text => "text"
  | .json => "json"

inductive Stage where
  | writeText
  | encodeSnapshot
  | writeJson
  | flush
  deriving DecidableEq, Repr

def Stage.message : Stage → String
  | .writeText => "write text report"
  | .encodeSnapshot => "encode snapshot"
  | .writeJson => "write json report"
  | .flush => "flush report"

structure Failure where
  stage : Stage
  cause : SinkError
  deriving DecidableEq, Repr

def Failure.message (failure : Failure) : String :=
  failure.stage.message ++ ": " ++ failure.cause.message

def chunks (pieces : List String) : List Bytes :=
  pieces.map Bytes.ofString

/-- The stages of a report, each with the chunks it writes. -/
def body : Format → Snapshot → List (Stage × List Bytes)
  | .text, snapshot => [(.writeText, chunks (snapshot.textPieces ++ ["\n"]))]
  | .json, snapshot =>
      [(.encodeSnapshot, chunks snapshot.jsonPieces), (.writeJson, chunks ["\n"])]

def writeStages (sink : Sink) : List (Stage × List Bytes) → Sink × Option Failure
  | [] => (sink, none)
  | (stage, written) :: rest =>
      match sink.writeAll written with
      | (sink, none) => writeStages sink rest
      | (sink, some cause) => (sink, some ⟨stage, cause⟩)

def write (format : Format) (sink : Sink) (snapshot : Snapshot) : Sink × Option Failure :=
  match writeStages sink (body format snapshot) with
  | (sink, some failure) => (sink, some failure)
  | (sink, none) =>
      match sink.flush with
      | (sink, none) => (sink, none)
      | (sink, some cause) => (sink, some ⟨.flush, cause⟩)

def writeAll (format : Format) (sink : Sink) : List Snapshot → Sink × Option Failure
  | [] => (sink, none)
  | snapshot :: rest =>
      match write format sink snapshot with
      | (sink, none) => writeAll format sink rest
      | failed => failed

/-- The same bytes without a limit. -/
def bytes (format : Format) (snapshot : Snapshot) : Bytes :=
  ((body format snapshot).flatMap (·.2)).flatten

end Report

end MemoryProbe
