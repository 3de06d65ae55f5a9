import MemoryProbe.CommandLine.Help
import MemoryProbe.CommandLine.Parse
import MemoryProbe.Log.Filter
import MemoryProbe.Log.Rotation
import MemoryProbe.Machine.Platform

namespace MemoryProbe.Probe

/-! ## The program

It is written once, for anything that can open a log, capture, wait and write. -/

/-- A log that was opened is known by a handle. -/
structure Actions (Run : Type → Type) (Handle : Type) where
  openLog : LogPath → Run (Option Handle)
  capture : Run (Outcome Unit (Entry NvmlCall) Snapshot)
  pause : UInt64 → Run Unit
  print : Bytes → Run Unit
  complain : List String → Run Unit
  writeLog : Handle → List String → Run Unit

def cannotOpen : String :=
  "failed to create rolling file appender"

def starting : Log.Event :=
  .started Version.unversioned

def logLines (filter : Log.Filter) (noted : List Log.Event) : List String :=
  (noted.filter filter.allows).map Log.Event.line

namespace Actions

variable {Run : Type → Type} [Monad Run] {Handle : Type} (actions : Actions Run Handle)

def fail (reason : String) : Run Nat := do
  actions.complain (Text.lines ("Error: " ++ reason))
  return 1

def answer (text : String) : Run Nat := do
  actions.print (Bytes.ofString text)
  return 0

def refuse (refusal : CommandLine.Refusal) : Run Nat := do
  actions.complain [refusal.message]
  return 2

def stop (environment : CommandLine.Environment) : CommandLine.Stop → Run Nat
  | .longHelp => actions.answer (CommandLine.longHelp environment)
  | .shortHelp => actions.answer (CommandLine.shortHelp environment)
  | .version => actions.answer CommandLine.versionText
  | .refused refusal => actions.refuse refusal

/-- The same lines go to standard error and to the log file. -/
def note (filter : Log.Filter) (log : Option Handle) (noted : List Log.Event) : Run Unit := do
  let lines := logLines filter noted
  actions.complain lines
  match log with
  | none => return ()
  | some handle => actions.writeLog handle lines

/-- Every sample is a capture of its own. -/
def takeSample (format : Report.Format) (filter : Log.Filter) (log : Option Handle) :
    Run Unit := do
  let outcome ← actions.capture
  actions.note filter log (Entry.events outcome.record)
  actions.print (Report.bytes format outcome.value)

/-- There is a pause before every sample but the first. -/
def takeSamples (options : CommandLine.Options) (filter : Log.Filter) (log : Option Handle) :
    Nat → Run Unit
  | 0 => return ()
  | left + 1 => do
      if left + 1 < options.samples then
        actions.pause options.intervalMs
      actions.takeSample options.format filter log
      takeSamples options filter log left

/-- Without a filter nothing is sampled, and the run breaks off after an empty line. -/
def sample (options : CommandLine.Options) (logVariable : Option Bytes) (log : Option Handle) :
    Run Nat := do
  let setup := Log.Filter.ofVariable logVariable
  actions.complain (setup.complaints.flatMap Text.lines)
  match setup.filter with
  | none =>
      actions.complain [""]
      return 101
  | some filter =>
      actions.note filter log [starting]
      actions.takeSamples options filter log options.samples
      return 0

/-- The command line is read first, then the log path, then the log file is opened; the
first of them to fail ends the run. -/
def program (environment : CommandLine.Environment) (arguments : List Bytes)
    (logVariable : Option Bytes) : Run Nat :=
  match CommandLine.parse environment arguments with
  | .error stop => actions.stop environment stop
  | .ok options =>
      match options.logFile with
      | none => actions.sample options logVariable none
      | some written =>
          match LogPath.split written with
          | .error reason => actions.fail reason
          | .ok path => do
              match ← actions.openLog path with
              | none => actions.fail cannotOpen
              | some log => actions.sample options logVariable (some log)

end Actions

/-! ## Runs of the probe -/

/-- What a run finds. -/
structure Surroundings where
  arguments : List Bytes
  environment : CommandLine.Environment
  logVariable : Option Bytes
  tree : FileTree
  here : List Bytes
  isHere : tree.hasFolder here = true
  machine : Machine
  today : Log.Date

inductive Effect where
  | printed (output : Bytes)
  | complained (lines : List String)
  | logged (lines : List String)
  | called (calls : List NvmlCall)

namespace Effect

def output : Effect → Bytes
  | .printed output => output
  | _ => []

def errors : Effect → List String
  | .complained lines => lines
  | _ => []

def filed : Effect → List String
  | .logged lines => lines
  | _ => []

def calls : Effect → List NvmlCall
  | .called calls => calls
  | _ => []

end Effect

/-- The machine does not change while it is read, and a log file is known by its path. -/
def Surroundings.actions (around : Surroundings) :
    Actions (Traced FileTree Effect) (List Bytes) where
  openLog path := fun tree =>
    let opened := Log.Rotation.openLog around.here around.today tree path
    ⟨opened.2, opened.1, []⟩
  capture := do
    let outcome := around.machine.query.capture ()
    Traced.note (.called (Entry.calls outcome.record))
    return outcome
  pause _ := return ()
  print output := Traced.note (.printed output)
  complain lines := Traced.note (.complained lines)
  writeLog file lines := fun tree => ⟨(), tree.append file lines, [.logged lines]⟩

/-- What a run leaves behind. Errors are whole lines, and so is what was logged to a file. -/
structure Result where
  exitCode : Nat
  output : Bytes
  errors : List String
  logged : List String
  tree : FileTree
  calls : List NvmlCall

/-- Only the first line of the errors is kept of a run that fails. -/
def Outcome.result (outcome : Outcome FileTree Effect Nat) : Result :=
  let errors := outcome.record.flatMap Effect.errors
  { exitCode := outcome.value
    output := outcome.record.flatMap Effect.output
    errors := if outcome.value = 0 then errors else errors.take 1
    logged := outcome.record.flatMap Effect.filed
    tree := outcome.state
    calls := outcome.record.flatMap Effect.calls }

def run (around : Surroundings) : Result :=
  Outcome.result (around.actions.program around.environment around.arguments
    around.logVariable around.tree)

end MemoryProbe.Probe
