import MemoryProbe.Query
import MemoryProbe.Text.Blank
import MemoryProbe.Text.Decimal

namespace MemoryProbe

/-! ## The kernel's memory table -/

/-- Lines of the form `Key: N kB`. A line counts when a whole number follows the colon,
and a later line overrides an earlier one of the same key. -/
structure MemInfo where
  total : ByteCount
  free : ByteCount
  available : Option ByteCount
  buffers : ByteCount
  cached : ByteCount
  reclaimable : ByteCount
  shared : ByteCount
  deriving DecidableEq, Repr

namespace MemInfo

def unread : MemInfo := ⟨0, 0, none, 0, 0, 0, 0⟩

def record (info : MemInfo) (key : String) (figure : ByteCount) : MemInfo :=
  match key with
  | "MemTotal" => { info with total := figure }
  | "MemFree" => { info with free := figure }
  | "MemAvailable" => { info with available := some figure }
  | "Buffers" => { info with buffers := figure }
  | "Cached" => { info with cached := figure }
  | "SReclaimable" => { info with reclaimable := figure }
  | "Shmem" => { info with shared := figure }
  | _ => info

/-- The number ends at the first space; figures are given in KiB. -/
def figure? (value : List Char) : Option ByteCount :=
  match Text.Decimal.natural ByteCount.limit
      ((Text.dropBlanks value).takeWhile (· != ' ')) with
  | .ok number => some (ByteCount.clamp (1024 * number))
  | .error _ => none

def entry? (line : List Char) : Option (String × ByteCount) :=
  match line.dropWhile (· != ':') with
  | [] => none
  | _ :: rest =>
      (figure? (rest.takeWhile (· != ':'))).map fun figure =>
        (String.ofList (line.takeWhile (· != ':')), figure)

def ofText (text : String) : MemInfo :=
  ((text.toList.splitOn '\n').filterMap entry?).foldl
    (fun info (key, figure) => info.record key figure) unread

/-- A table that cannot be opened leaves every figure at zero. -/
def ofText? (text : Option String) : MemInfo :=
  text.elim unread ofText

/-- Kernels without a figure for available memory leave it to be estimated. -/
def estimate (info : MemInfo) : ByteCount :=
  (((info.free.plus info.buffers).plus info.cached).plus info.reclaimable).minus
    info.shared

def usable (info : MemInfo) : ByteCount :=
  info.available.getD info.estimate

/-! ## System memory -/

/-- Without a total there is no accounting at all. -/
def physical (info : MemInfo) : Except QueryError ByteCount :=
  if info.total = 0 then .error .systemUnavailable else .ok info.total

/-- Some platforms leave the available figure at zero; there the free figure stands in. -/
def freeEstimate (info : MemInfo) : Except QueryError ByteCount :=
  if info.total = 0 then .error .systemUnavailable
  else .ok (min (if info.usable = 0 then info.free else info.usable) info.total)

def source {State Call : Type} (info : MemInfo) : SystemSource State Call where
  physical := return info.physical
  free := return info.freeEstimate

end MemInfo

end MemoryProbe
