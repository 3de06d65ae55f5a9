import MemoryProbe.Probe
import Std.Time

namespace MemoryProbe.Main

/-! ## The probe as a program

Everything is decided elsewhere: here arguments, variables and tables are read, log
files are opened and removed, and lines are written. This build has no NVIDIA library
to load, so it reads machines without one. -/

def variableBytes (name : String) : IO (Option Bytes) :=
  return (← IO.getEnv name).map Bytes.ofString

def environment : IO CommandLine.Environment := do
  let format ← variableBytes CommandLine.Setting.format.variableName
  let samples ← variableBytes CommandLine.Setting.samples.variableName
  let intervalMs ← variableBytes CommandLine.Setting.intervalMs.variableName
  let logFile ← variableBytes CommandLine.Setting.logFile.variableName
  return fun
    | .format => format
    | .samples => samples
    | .intervalMs => intervalMs
    | .logFile => logFile

def machine : IO Machine := do
  let table ← (IO.FS.readFile "/proc/meminfo").toBaseIO
  return ⟨table.toOption, .missing⟩

def today : IO Log.Date := do
  let now ← Std.Time.Timestamp.now
  let date := Std.Time.PlainDate.ofEpochDay now.toDaysSinceUnixEpoch
  match Log.Date.ofParts? date.year.toInt.toNat date.month.val.toNat date.day.val.toNat with
  | some date => return date
  | none => throw (IO.userError "the year is out of range")

def byteArray (bytes : Bytes) : ByteArray :=
  ⟨bytes.toArray⟩

/-- The names of a folder's files, the one written last at the end. A folder that cannot
be read has none. -/
def fileNames (folder : String) : IO (List Bytes) := do
  let here ← IO.currentDir
  match ← (here / folder).readDir.toBaseIO with
  | .error _ => return []
  | .ok entries =>
      let files ← entries.toList.filterMapM fun entry => do
        match ← entry.path.symlinkMetadata.toBaseIO with
        | .error _ => return none
        | .ok found =>
            return if found.type == .file then some (entry.fileName, found.modified) else none
      return (files.mergeSort fun left right => (compare left.2 right.2).isLE).map
        fun (name, _) => Bytes.ofString name

def openLog (path : LogPath) : IO IO.FS.Handle := do
  let names ← fileNames path.directory.display
  for name in Log.Rotation.expired path.fileName names do
    let _ ← (IO.FS.removeFile (path.fileAt name).display).toBaseIO
  IO.FS.createDirAll path.directory.display
  IO.FS.Handle.mk (path.fileAt (Log.Rotation.nameOn path (← today))).display .append

def actions : Probe.Actions IO IO.FS.Handle where
  openLog path := return (← (openLog path).toBaseIO).toOption
  capture := return (← machine).query.capture ()
  pause interval := IO.sleep (UInt32.ofNat (min interval.toNat (UInt32.size - 1)))
  print output := do
    let written ← IO.getStdout
    written.write (byteArray output)
    written.flush
  complain lines := lines.forM fun line => IO.eprintln line
  writeLog log lines := lines.forM log.putStrLn

def run (arguments : List String) : IO UInt32 := do
  let code ← actions.program (← environment) (arguments.map Bytes.ofString)
    (← variableBytes "RUST_LOG")
  return UInt32.ofNat code

end MemoryProbe.Main

def main (arguments : List String) : IO UInt32 :=
  MemoryProbe.Main.run arguments
