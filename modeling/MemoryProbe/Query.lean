import MemoryProbe.Traced

namespace MemoryProbe

/-! ## Sources -/

/-- A source reads the figures of one part of the machine and may fail to. -/
structure GpuSource (State Call : Type) where
  library : Reading State Call (Option Library)
  recommended : Reading State Call (Except QueryError ByteCount)
  allocated : Reading State Call (Except QueryError ByteCount)
  usage : Reading State Call (Except QueryError VramUsage)

structure SystemSource (State Call : Type) where
  physical : Reading State Call (Except QueryError ByteCount)
  free : Reading State Call (Except QueryError ByteCount)

namespace GpuSource

variable {State Call : Type}

/-- Both figures from two single reads: without a budget there is no usage, and an
allocation that cannot be read counts as zero. -/
def separateUsage (recommended allocated : Reading State Call (Except QueryError ByteCount)) :
    Reading State Call (Except QueryError VramUsage) := do
  match ← recommended with
  | .error error => return .error error
  | .ok budget =>
      match ← allocated with
      | .ok taken => return .ok ⟨budget, taken⟩
      | .error error =>
          Reading.log (.allocationUnavailable error)
          return .ok ⟨budget, 0⟩

/-- A source of single reads only. -/
def ofSeparate (library : Reading State Call (Option Library))
    (recommended allocated : Reading State Call (Except QueryError ByteCount)) :
    GpuSource State Call where
  library := library
  recommended := recommended
  allocated := allocated
  usage := separateUsage recommended allocated

/-- The source of a platform without a GPU framework. -/
def unsupported : GpuSource State Call :=
  ofSeparate (return none)
    (return .error (.unsupported Log.ScalarQuery.recommendedMaxVram.name))
    (return .error (.unsupported Log.ScalarQuery.currentAllocatedVram.name))

end GpuSource

/-! ## Queries -/

/-- Queries never fail: a figure that cannot be read is zero, and a log event says why. -/
structure MemoryQuery (State Call : Type) where
  gpu : GpuSource State Call
  system : SystemSource State Call

namespace MemoryQuery

variable {State Call : Type}

def orUnknown (query : Log.ScalarQuery)
    (read : Reading State Call (Except QueryError ByteCount)) :
    Reading State Call ByteCount := do
  match ← read with
  | .ok figure => return figure
  | .error error =>
      Reading.log (.queryUnavailable query error)
      return 0

def library (query : MemoryQuery State Call) : Reading State Call (Option Library) :=
  query.gpu.library

def recommendedMaxVram (query : MemoryQuery State Call) : Reading State Call ByteCount :=
  orUnknown .recommendedMaxVram query.gpu.recommended

def currentAllocatedVram (query : MemoryQuery State Call) : Reading State Call ByteCount :=
  orUnknown .currentAllocatedVram query.gpu.allocated

def physicalMemory (query : MemoryQuery State Call) : Reading State Call ByteCount :=
  orUnknown .physicalMemory query.system.physical

def freeMemory (query : MemoryQuery State Call) : Reading State Call ByteCount :=
  orUnknown .freeMemory query.system.free

/-- A budget of zero means that there is nothing to use. -/
def vramUsage (query : MemoryQuery State Call) :
    Reading State Call (Option VramUsage) := do
  match ← query.gpu.usage with
  | .ok usage => return if 0 < usage.recommended then some usage else none
  | .error error =>
      Reading.log (.usageUnavailable error)
      return none

def device (library : Library) (usage : VramUsage) :
    Reading State Call (Option GpuInfo) := do
  match library.device usage with
  | some gpu => return some gpu
  | none =>
      Reading.log (.belowMinimum library usage.recommended)
      return none

/-- The device is looked at only when there is a library to use it with, and budget and
allocation come from one combined read. -/
def gpu? (query : MemoryQuery State Call) : Reading State Call (Option GpuInfo) := do
  match ← query.library with
  | none => return none
  | some library =>
      match ← query.vramUsage with
      | none => return none
      | some usage => device library usage

def capture (query : MemoryQuery State Call) : Reading State Call Snapshot := do
  let total ← query.physicalMemory
  let free ← query.freeMemory
  let gpu ← query.gpu?
  let snapshot : Snapshot := ⟨⟨total, free⟩, gpu⟩
  Reading.log (.captured snapshot)
  return snapshot

end MemoryQuery

end MemoryProbe
