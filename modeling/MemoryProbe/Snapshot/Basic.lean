import MemoryProbe.Library

namespace MemoryProbe

structure MemoryInfo where
  total : ByteCount
  free : ByteCount
  deriving DecidableEq, Repr

def MemoryInfo.unknown : MemoryInfo := ⟨0, 0⟩

structure GpuInfo where
  library : Library
  id : String
  total : ByteCount
  free : ByteCount
  minimum : ByteCount
  deriving DecidableEq, Repr

/-- A snapshot holds the system's figures and, where a usable device was found, those of
the default GPU. -/
structure Snapshot where
  system : MemoryInfo
  gpu : Option GpuInfo
  deriving DecidableEq, Repr

/-- Budget and allocation of a device, read together. -/
structure VramUsage where
  recommended : ByteCount
  allocated : ByteCount
  deriving DecidableEq, Repr

/-- A request fits when it leaves the library's minimum free as well. -/
def GpuInfo.fits (gpu : GpuInfo) (request : ByteCount) : Bool :=
  request.plus gpu.minimum ≤ gpu.free

def Snapshot.fits (snapshot : Snapshot) (request : ByteCount) : Bool :=
  snapshot.gpu.any (·.fits request)

/-- The default device carries the id `0`. One whose budget lies below the
library's minimum cannot be used at all. -/
def Library.device (library : Library) (usage : VramUsage) : Option GpuInfo :=
  if usage.recommended < library.minimumMemory then none
  else some {
    library
    id := "0"
    total := usage.recommended
    free := usage.recommended.minus usage.allocated
    minimum := library.minimumMemory }

end MemoryProbe
