import MemoryProbe.Query

namespace MemoryProbe

/-- What the library answers: return codes of its calls, the number of devices, and the
memory figures of the first one. -/
structure NvmlLibrary where
  firstInit : Nat
  secondInit : Nat
  countCode : Nat
  count : Nat
  handleCode : Nat
  memoryCode : Nat
  total : ByteCount
  used : ByteCount
  deriving DecidableEq, Repr

/-- A machine without the library refuses both ways of opening it. -/
def NvmlLibrary.missing : NvmlLibrary where
  firstInit := 12
  secondInit := 12
  countCode := 0
  count := 1
  handleCode := 0
  memoryCode := 0
  total := 0
  used := 0

inductive NvmlCall where
  | init
  | count
  | handle
  | memory
  | shutdown
  deriving DecidableEq, Repr

def NvmlCall.name : NvmlCall → String
  | .init => "init"
  | .count => "count"
  | .handle => "handle 0"
  | .memory => "memory"
  | .shutdown => "shutdown"

namespace NvmlLibrary

/-- One call with its return code. -/
def attempt (call : NvmlCall) (code : Nat) :
    Reading Unit NvmlCall (Except NvmlError Unit) := do
  Reading.call call
  return match NvmlError.ofCode code with
    | none => .ok ()
    | some failure => .error failure

/-- A library that does not open the standard way is tried once more by its file
name; the second failure is the one that counts. -/
def openSession (library : NvmlLibrary) :
    Reading Unit NvmlCall (Except NvmlError Unit) := do
  match ← attempt .init library.firstInit with
  | .ok _ => return .ok ()
  | .error failure =>
      Reading.log (.standardInitFailed failure)
      attempt .init library.secondInit

/-- Within a session: the devices are counted, the first one is looked up, and its
memory is read. -/
def firstDeviceUsage (library : NvmlLibrary) :
    Reading Unit NvmlCall (Except QueryError VramUsage) := do
  match ← attempt .count library.countCode with
  | .error failure => return .error (.nvml failure)
  | .ok _ =>
      if library.count = 0 then return .error .noDevice
      else
        match ← attempt .handle library.handleCode with
        | .error failure => return .error (.nvml failure)
        | .ok _ =>
            match ← attempt .memory library.memoryCode with
            | .error failure => return .error (.nvml failure)
            | .ok _ => return .ok ⟨library.total, library.used⟩

/-- A session that was opened is shut down, whatever happened in it. -/
def usage (library : NvmlLibrary) :
    Reading Unit NvmlCall (Except QueryError VramUsage) := do
  match ← library.openSession with
  | .error failure => return .error (.nvml failure)
  | .ok _ =>
      let usage ← library.firstDeviceUsage
      Reading.call .shutdown
      return usage

/-- The device's total memory is its budget. Every read opens its own session. -/
def source (library : NvmlLibrary) : GpuSource Unit NvmlCall where
  library := return some .nvml
  recommended := return (← library.usage).map (·.recommended)
  allocated := return (← library.usage).map (·.allocated)
  usage := library.usage

end NvmlLibrary

end MemoryProbe
