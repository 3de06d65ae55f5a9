import MemoryProbe.Machine.MemInfo
import MemoryProbe.Snapshot.Text

namespace MemoryProbe

/-! ## Metal devices -/

/-- The system default device, if there is one, with its two figures. It is obtained for
each read and let go when the read is done. -/
structure MetalDevice where
  recommended : ByteCount
  allocated : ByteCount
  deriving DecidableEq, Repr

inductive MetalCall where
  | device
  | recommended
  | allocated
  | release
  deriving DecidableEq, Repr

def MetalCall.name : MetalCall → String
  | .device => "device"
  | .recommended => "recommended"
  | .allocated => "allocated"
  | .release => "release"

namespace MetalDevice

def withDefault {Value : Type} (reads : List MetalCall) (value : MetalDevice → Value) :
    Reading (Option MetalDevice) MetalCall (Except QueryError Value)
  | none => ⟨.error .noDevice, none, [.call .device]⟩
  | some device =>
      ⟨.ok (value device), some device,
        (MetalCall.device :: reads ++ [MetalCall.release]).map Entry.call⟩

def source : GpuSource (Option MetalDevice) MetalCall where
  library := return some .metal
  recommended := withDefault [.recommended] (·.recommended)
  allocated := withDefault [.allocated] (·.allocated)
  usage := withDefault [.recommended, .allocated] fun device =>
    ⟨device.recommended, device.allocated⟩

def query (info : MemInfo) : MemoryQuery (Option MetalDevice) MetalCall where
  gpu := source
  system := info.source

end MetalDevice

/-! ## Runs over a Metal device -/

structure MetalRun where
  device : Option MetalDevice
  last : Option Snapshot

namespace MetalRun

/-- The device can be replaced between steps. -/
inductive Step where
  | library
  | deviceRecommended
  | deviceAllocated
  | deviceUsage
  | recommendedMaxVram
  | currentAllocatedVram
  | vramUsage
  | capture
  | text
  | replace (device : Option MetalDevice)

/-- Device reads give a value or an error; the queries never fail. -/
inductive Answer where
  | library (found : Option Library)
  | readFigure (read : Except QueryError ByteCount)
  | readUsage (read : Except QueryError VramUsage)
  | figure (count : ByteCount)
  | usage (found : Option VramUsage)
  | snapshot (taken : Snapshot)
  | text (shown : Option String)
  | done

abbrev Result := Outcome MetalRun (Entry MetalCall) Answer

def read {Value : Type} (run : MetalRun) (answer : Value → Answer)
    (reading : Reading (Option MetalDevice) MetalCall Value) : Result :=
  let outcome := reading run.device
  ⟨answer outcome.value, { run with device := outcome.state }, outcome.record⟩

def take (run : MetalRun)
    (reading : Reading (Option MetalDevice) MetalCall Snapshot) : Result :=
  let outcome := reading run.device
  ⟨.snapshot outcome.value, ⟨outcome.state, some outcome.value⟩, outcome.record⟩

def perform (info : MemInfo) (run : MetalRun) : Step → Result
  | .library => run.read .library (MetalDevice.query info).library
  | .deviceRecommended => run.read .readFigure MetalDevice.source.recommended
  | .deviceAllocated => run.read .readFigure MetalDevice.source.allocated
  | .deviceUsage => run.read .readUsage MetalDevice.source.usage
  | .recommendedMaxVram => run.read .figure (MetalDevice.query info).recommendedMaxVram
  | .currentAllocatedVram => run.read .figure (MetalDevice.query info).currentAllocatedVram
  | .vramUsage => run.read .usage (MetalDevice.query info).vramUsage
  | .capture => run.take (MetalDevice.query info).capture
  | .text => ⟨.text (run.last.map Snapshot.text), run, []⟩
  | .replace device => ⟨.done, { run with device }, []⟩

def runSteps (info : MemInfo) (run : MetalRun) : List Step → List Result
  | [] => []
  | step :: rest =>
      let result := perform info run step
      result :: runSteps info result.state rest

end MetalRun

end MemoryProbe
