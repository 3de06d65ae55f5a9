import MemoryProbe.ByteCount.Basic

namespace MemoryProbe

/-- The framework through which a GPU is read. Each needs some free device memory
of its own before a workload can use the device. -/
inductive Library where
  | metal
  | nvml
  deriving DecidableEq, Repr

namespace Library

def name : Library → String
  | .metal => "metal"
  | .nvml => "nvml"

def typeName : Library → String
  | .metal => "Metal"
  | .nvml => "Nvml"

def minimumMemory : Library → ByteCount
  | .metal => 512 * ByteCount.mebibyte
  | .nvml => 457 * ByteCount.mebibyte

end Library

end MemoryProbe
