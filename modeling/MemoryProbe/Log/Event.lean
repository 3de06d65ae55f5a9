import MemoryProbe.ByteCount.Size
import MemoryProbe.QueryError
import MemoryProbe.Snapshot.Basic

namespace MemoryProbe.Log

/-- Levels, from the gravest to the most detailed. -/
inductive Level where
  | error
  | warn
  | info
  | debug
  | trace
  deriving DecidableEq, Repr

namespace Level

def name : Level → String
  | .error => "ERROR"
  | .warn => "WARN"
  | .info => "INFO"
  | .debug => "DEBUG"
  | .trace => "TRACE"

def detail : Level → Nat
  | .error => 1
  | .warn => 2
  | .info => 3
  | .debug => 4
  | .trace => 5

end Level

/-! ## Events -/

/-- The four scalar queries are named in the events about them. -/
inductive ScalarQuery where
  | recommendedMaxVram
  | currentAllocatedVram
  | physicalMemory
  | freeMemory
  deriving DecidableEq, Repr

def ScalarQuery.name : ScalarQuery → String
  | .recommendedMaxVram => "recommended_max_vram"
  | .currentAllocatedVram => "current_allocated_vram"
  | .physicalMemory => "physical_memory"
  | .freeMemory => "free_memory"

inductive Event where
  | started (version : String)
  | queryUnavailable (query : ScalarQuery) (error : QueryError)
  | usageUnavailable (error : QueryError)
  | allocationUnavailable (error : QueryError)
  | standardInitFailed (error : NvmlError)
  | belowMinimum (library : Library) (recommended : ByteCount)
  | captured (snapshot : Snapshot)
  deriving DecidableEq, Repr

/-- A field is shown as it is, or between quotes. -/
inductive FieldValue where
  | shown (text : String)
  | quoted (text : String)
  deriving DecidableEq, Repr

namespace FieldValue

def plain : FieldValue → String
  | .shown text => text
  | .quoted text => text

def inLine : FieldValue → String
  | .shown text => text
  | .quoted text => "\"" ++ text ++ "\""

end FieldValue

structure Field where
  name : String
  value : FieldValue
  deriving DecidableEq, Repr

/-- A device among the fields is spelled out member by member. Captured devices
carry the id `0`, which needs no escape. -/
def deviceText : Option GpuInfo → String
  | none => "None"
  | some gpu =>
      "Some(GpuInfo \x7b library: " ++ gpu.library.typeName ++
        ", id: \"" ++ gpu.id ++ "\"" ++
        ", total_memory: " ++ gpu.total.toNat.repr ++
        ", free_memory: " ++ gpu.free.toNat.repr ++
        ", minimum_memory: " ++ gpu.minimum.toNat.repr ++ " \x7d)"

namespace Event

def level : Event → Level
  | .belowMinimum .. => .info
  | _ => .debug

/-- The part of the program that speaks. -/
def target : Event → String
  | .started .. => "hwmem_probe"
  | .queryUnavailable .. => "hwmem"
  | .usageUnavailable .. => "hwmem"
  | .allocationUnavailable .. => "hwmem::gpu"
  | .standardInitFailed .. => "hwmem::gpu::nvml"
  | .belowMinimum .. => "hwmem::snapshot"
  | .captured .. => "hwmem::snapshot"

def message : Event → String
  | .started version => "Starting hwmem-probe " ++ version
  | .queryUnavailable .. => "memory query unavailable, reporting 0"
  | .usageUnavailable .. => "VRAM usage unavailable"
  | .allocationUnavailable .. => "allocated VRAM unavailable, counting 0"
  | .standardInitFailed .. => "standard NVML init failed, trying libnvidia-ml.so.1"
  | .belowMinimum library recommended =>
      "GPU memory below minimum: " ++ recommended.sizeText ++ " < " ++
        library.minimumMemory.sizeText
  | .captured .. => "captured memory snapshot"

def fields : Event → List Field
  | .started .. => []
  | .queryUnavailable query error =>
      [⟨"query", .quoted query.name⟩, ⟨"error", .shown error.message⟩]
  | .usageUnavailable error => [⟨"error", .shown error.message⟩]
  | .allocationUnavailable error => [⟨"error", .shown error.message⟩]
  | .standardInitFailed error => [⟨"error", .shown error.message⟩]
  | .belowMinimum library _ => [⟨"library", .shown library.name⟩]
  | .captured snapshot =>
      [⟨"total", .shown snapshot.system.total.toNat.repr⟩,
        ⟨"free", .shown snapshot.system.free.toNat.repr⟩,
        ⟨"gpu", .shown (deviceText snapshot.gpu)⟩]

def line (event : Event) : String :=
  event.level.name ++ " " ++ event.target ++ ": " ++ event.message ++
    String.join (event.fields.map fun field =>
      " " ++ field.name ++ "=" ++ field.value.inLine)

end Event

end MemoryProbe.Log
