namespace MemoryProbe

/-- A failure of the NVIDIA management library. -/
inductive NvmlError where
  | uninitialized
  | invalidArgument
  | notSupported
  | noPermission
  | alreadyInitialized
  | notFound
  | insufficientSize (needed : Option Nat)
  | insufficientPower
  | driverNotLoaded
  | timeout
  | interruptIssue
  | libraryNotFound
  | functionNotFound
  | corruptedInfoRom
  | deviceLost
  | resetRequired
  | operatingSystem
  | versionMismatch
  | inUse
  | insufficientMemory
  | noData
  | virtualGpuEccNotSupported
  | unknown
  | unexpectedCode (code : Nat)
  | missingSymbol (detail : String)
  | releaseFailed
  deriving DecidableEq, Repr

namespace NvmlError

def message : NvmlError → String
  | .uninitialized => "NVML was not first initialized with `Nvml::init()`"
  | .invalidArgument => "a supplied argument was invalid"
  | .notSupported => "the requested operation is not available on the target device"
  | .noPermission => "the current user does not have permission to perform this operation"
  | .alreadyInitialized => "NVML was already initialized"
  | .notFound => "a query to find an object was unsuccessful"
  | .insufficientSize none => "an input argument is not large enough"
  | .insufficientSize (some needed) =>
      "an input argument is not large enough, needs to be at least " ++ needed.repr
  | .insufficientPower => "device's external power cables are not properly attached"
  | .driverNotLoaded => "NVIDIA driver is not loaded"
  | .timeout => "the provided timeout was reached"
  | .interruptIssue => "NVIDIA kernel detected an interrupt issue with a device"
  | .libraryNotFound => "a shared library couldn't be found or loaded"
  | .functionNotFound => "a function couldn't be found in a shared library"
  | .corruptedInfoRom => "the infoROM is corrupted"
  | .deviceLost => "device fell off the bus or has otherwise become inacessible"
  | .resetRequired => "device requires a reset before it can be used again"
  | .operatingSystem => "device control has been blocked by the operating system/cgroups"
  | .versionMismatch => "RM detects a driver/library version mismatch"
  | .inUse => "operation cannot be performed because the GPU is currently in use"
  | .insufficientMemory => "insufficient memory"
  | .noData => "no data"
  | .virtualGpuEccNotSupported =>
      "the requested vgpu operation is not available on the target device because ECC " ++
        "is enabled"
  | .unknown => "an internal driver error occured"
  | .unexpectedCode code => "unexpected enum variant value: " ++ code.repr
  | .missingSymbol detail => "function symbol failed to load: " ++ detail
  | .releaseFailed => "a call to `EventSet.release_events()` failed"

/-- Return codes of the library; zero is success. -/
def ofCode : Nat → Option NvmlError
  | 0 => none
  | 1 => some .uninitialized
  | 2 => some .invalidArgument
  | 3 => some .notSupported
  | 4 => some .noPermission
  | 5 => some .alreadyInitialized
  | 6 => some .notFound
  | 7 => some (.insufficientSize none)
  | 8 => some .insufficientPower
  | 9 => some .driverNotLoaded
  | 10 => some .timeout
  | 11 => some .interruptIssue
  | 12 => some .libraryNotFound
  | 13 => some .functionNotFound
  | 14 => some .corruptedInfoRom
  | 15 => some .deviceLost
  | 16 => some .resetRequired
  | 17 => some .operatingSystem
  | 18 => some .versionMismatch
  | 19 => some .inUse
  | 20 => some .insufficientMemory
  | 21 => some .noData
  | 22 => some .virtualGpuEccNotSupported
  | 999 => some .unknown
  | code => some (.unexpectedCode code)

end NvmlError

/-- Why a figure could not be read. -/
inductive QueryError where
  | noDevice
  | unsupported (query : String)
  | nvml (failure : NvmlError)
  | systemUnavailable
  deriving DecidableEq, Repr

namespace QueryError

def message : QueryError → String
  | .noDevice => "no default GPU device"
  | .unsupported query => "`" ++ query ++ "` cannot be queried on this platform"
  | .nvml failure => "NVML failed with `" ++ failure.message ++ "`"
  | .systemUnavailable => "system memory accounting is unavailable"

/-- The failure underneath, where there is one. -/
def source : QueryError → Option NvmlError
  | .nvml failure => some failure
  | _ => none

end QueryError

end MemoryProbe
