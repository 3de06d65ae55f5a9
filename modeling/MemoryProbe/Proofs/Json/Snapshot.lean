import MemoryProbe.Proofs.Json.RoundTrip
import MemoryProbe.Proofs.Lines
import MemoryProbe.Snapshot.Json

namespace MemoryProbe

open Json (Value)

/-! ## Snapshots as values

A snapshot is an object with its fields as members, figures as whole numbers and
`null` in place of a missing device. -/

def MemoryInfo.toValue (info : MemoryInfo) : Value :=
  .object [("total_memory", .whole info.total.toNat), ("free_memory", .whole info.free.toNat)]

def GpuInfo.toValue (gpu : GpuInfo) : Value :=
  .object [
    ("library", .text gpu.library.name),
    ("id", .text gpu.id),
    ("total_memory", .whole gpu.total.toNat),
    ("free_memory", .whole gpu.free.toNat),
    ("minimum_memory", .whole gpu.minimum.toNat)]

def Snapshot.toValue (snapshot : Snapshot) : Value :=
  .object [("system", snapshot.system.toValue), ("gpu", snapshot.gpu.elim .null (·.toValue))]

def Json.Value.member? (value : Value) (name : String) : Option Value :=
  match value with
  | .object members => members.lookup name
  | _ => none

def ByteCount.ofValue? : Value → Option ByteCount
  | .whole number => if number < UInt64.size then some (UInt64.ofNat number) else none
  | _ => none

def Library.ofValue? : Value → Option Library
  | .text "metal" => some .metal
  | .text "nvml" => some .nvml
  | _ => none

def MemoryInfo.ofValue? (value : Value) : Option MemoryInfo := do
  let total ← (value.member? "total_memory").bind ByteCount.ofValue?
  let free ← (value.member? "free_memory").bind ByteCount.ofValue?
  return ⟨total, free⟩

def idOfValue? : Value → Option String
  | .text id => some id
  | _ => none

def GpuInfo.ofValue? (value : Value) : Option GpuInfo := do
  let library ← (value.member? "library").bind Library.ofValue?
  let id ← (value.member? "id").bind idOfValue?
  let total ← (value.member? "total_memory").bind ByteCount.ofValue?
  let free ← (value.member? "free_memory").bind ByteCount.ofValue?
  let minimum ← (value.member? "minimum_memory").bind ByteCount.ofValue?
  return ⟨library, id, total, free, minimum⟩

def GpuInfo.optionOfValue? : Value → Option (Option GpuInfo)
  | .null => some none
  | value => (GpuInfo.ofValue? value).map some

/-- Reading a snapshot back takes each field from the member of its name. -/
def Snapshot.ofValue? (value : Value) : Option Snapshot := do
  let system ← (value.member? "system").bind MemoryInfo.ofValue?
  let gpu ← (value.member? "gpu").bind GpuInfo.optionOfValue?
  return ⟨system, gpu⟩

private theorem ByteCount.ofValue?_whole (count : ByteCount) :
    ByteCount.ofValue? (.whole count.toNat) = some count := by
  rw [ByteCount.ofValue?, if_pos (UInt64.toNat_lt count), UInt64.ofNat_toNat]

private theorem Library.ofValue?_name (library : Library) :
    Library.ofValue? (.text library.name) = some library := by
  cases library <;> rfl

theorem MemoryInfo.ofValue?_toValue (info : MemoryInfo) :
    MemoryInfo.ofValue? info.toValue = some info := by
  simp [MemoryInfo.ofValue?, MemoryInfo.toValue, Value.member?, List.lookup_cons,
    ByteCount.ofValue?_whole]

theorem GpuInfo.ofValue?_toValue (gpu : GpuInfo) :
    GpuInfo.ofValue? gpu.toValue = some gpu := by
  simp [GpuInfo.ofValue?, GpuInfo.toValue, Value.member?, List.lookup_cons, idOfValue?,
    ByteCount.ofValue?_whole, Library.ofValue?_name]

theorem Snapshot.ofValue?_toValue (snapshot : Snapshot) :
    Snapshot.ofValue? snapshot.toValue = some snapshot := by
  have device : GpuInfo.optionOfValue? (snapshot.gpu.elim .null (·.toValue)) =
      some snapshot.gpu := by
    cases snapshot.gpu with
    | none => rfl
    | some gpu =>
        have read := GpuInfo.ofValue?_toValue gpu
        simp only [Option.elim_some]
        rw [← Option.map_some, ← read]
        rfl
  simp [Snapshot.ofValue?, Snapshot.toValue, Value.member?, List.lookup_cons,
    MemoryInfo.ofValue?_toValue, device]

/-! ## What is written

The pieces of a snapshot are its value, written. The names of the fields hold nothing
that is escaped. -/

namespace Json

private theorem quoted_of_plain {text : String}
    (plain : text.toList.flatMap escape = text.toList) :
    (quoted text).toList = '"' :: text.toList ++ ['"'] := by
  rw [quoted, String.toList_ofList, List.cons_append, plain, List.cons_append]

end Json

theorem MemoryInfo.joined_jsonPieces (info : MemoryInfo) :
    Text.joined info.jsonPieces = info.toValue.render := by
  simp (disch := decide) [jsonPieces, toValue, Value.render, Json.renderMembers,
    ByteCount.digits, Json.quoted_of_plain]

theorem GpuInfo.joined_jsonPieces (gpu : GpuInfo) :
    Text.joined gpu.jsonPieces = gpu.toValue.render := by
  simp (disch := decide) [jsonPieces, toValue, Value.render, Json.renderMembers,
    ByteCount.digits, Library.json, Json.quoted_of_plain]

theorem Snapshot.joined_jsonPieces (snapshot : Snapshot) :
    Text.joined snapshot.jsonPieces = snapshot.toValue.render := by
  rcases snapshot with ⟨system, gpu⟩
  cases gpu with
  | none =>
      simp (disch := decide) [jsonPieces, toValue, Value.render, Json.renderMembers,
        MemoryInfo.joined_jsonPieces, Json.quoted_of_plain]
  | some device =>
      simp (disch := decide) [jsonPieces, toValue, Value.render, Json.renderMembers,
        MemoryInfo.joined_jsonPieces, GpuInfo.joined_jsonPieces, Json.quoted_of_plain]

end MemoryProbe
