import MemoryProbe.Json.Quoted
import MemoryProbe.Snapshot.Basic

namespace MemoryProbe

/-! ## Snapshots for programs

One object without blanks, members in a fixed order, figures as whole numbers,
and `null` where there is no device. -/

def ByteCount.digits (count : ByteCount) : String :=
  count.toNat.repr

def Library.json (library : Library) : String :=
  Json.quoted library.name

def MemoryInfo.jsonPieces (info : MemoryInfo) : List String :=
  ["\x7b\"total_memory\":", info.total.digits,
    ",\"free_memory\":", info.free.digits, "\x7d"]

def MemoryInfo.json (info : MemoryInfo) : String :=
  String.join info.jsonPieces

def GpuInfo.jsonPieces (gpu : GpuInfo) : List String :=
  ["\x7b\"library\":", gpu.library.json,
    ",\"id\":", Json.quoted gpu.id,
    ",\"total_memory\":", gpu.total.digits,
    ",\"free_memory\":", gpu.free.digits,
    ",\"minimum_memory\":", gpu.minimum.digits, "\x7d"]

namespace Snapshot

def jsonPieces (snapshot : Snapshot) : List String :=
  ["\x7b\"system\":"] ++ snapshot.system.jsonPieces ++ [",\"gpu\":"] ++
    (match snapshot.gpu with
      | none => ["null"]
      | some gpu => gpu.jsonPieces) ++ ["\x7d"]

def json (snapshot : Snapshot) : String :=
  String.join snapshot.jsonPieces

end Snapshot

end MemoryProbe
