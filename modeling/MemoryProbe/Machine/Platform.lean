import MemoryProbe.Machine.MemInfo
import MemoryProbe.Machine.Nvml

namespace MemoryProbe

/-- A machine is its kernel's memory table, if that can be opened, and its NVIDIA
library. Neither changes while it is read. -/
structure Machine where
  memInfo : Option String
  nvml : NvmlLibrary

namespace Machine

def system (machine : Machine) : SystemSource Unit NvmlCall :=
  (MemInfo.ofText? machine.memInfo).source

def query (machine : Machine) : MemoryQuery Unit NvmlCall where
  gpu := machine.nvml.source
  system := machine.system

inductive Step where
  | library
  | nvmlRecommended
  | nvmlAllocated
  | nvmlUsage
  | systemPhysical
  | systemFree
  | recommendedMaxVram
  | currentAllocatedVram
  | physicalMemory
  | freeMemory
  | capture
  deriving DecidableEq, Repr

/-- Source reads give a value or an error; the queries never fail. -/
inductive Answer where
  | library (found : Option Library)
  | readFigure (read : Except QueryError ByteCount)
  | readUsage (read : Except QueryError VramUsage)
  | figure (count : ByteCount)
  | snapshot (taken : Snapshot)

def perform (machine : Machine) : Step → Reading Unit NvmlCall Answer
  | .library => return .library (← machine.query.library)
  | .nvmlRecommended => return .readFigure (← machine.nvml.source.recommended)
  | .nvmlAllocated => return .readFigure (← machine.nvml.source.allocated)
  | .nvmlUsage => return .readUsage (← machine.nvml.source.usage)
  | .systemPhysical => return .readFigure (← machine.system.physical)
  | .systemFree => return .readFigure (← machine.system.free)
  | .recommendedMaxVram => return .figure (← machine.query.recommendedMaxVram)
  | .currentAllocatedVram => return .figure (← machine.query.currentAllocatedVram)
  | .physicalMemory => return .figure (← machine.query.physicalMemory)
  | .freeMemory => return .figure (← machine.query.freeMemory)
  | .capture => return .snapshot (← machine.query.capture)

def runSteps (machine : Machine) (steps : List Step) :
    List (Outcome Unit (Entry NvmlCall) Answer) :=
  steps.map fun step => machine.perform step ()

end Machine

end MemoryProbe
