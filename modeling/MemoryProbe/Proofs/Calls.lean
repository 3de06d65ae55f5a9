import MemoryProbe.Query

namespace MemoryProbe.MemoryQuery

/-! ## The calls behind a query

Turning failures into zeros and absences notes events and makes no calls: a query
calls what its source calls, and a capture what its three parts call. -/

variable {State Call : Type} (query : MemoryQuery State Call) (state : State)

@[simp] theorem calls_orUnknown (scalar : Log.ScalarQuery)
    (read : Reading State Call (Except QueryError ByteCount)) :
    Entry.calls (orUnknown scalar read state).record =
      Entry.calls (read state).record := by
  rw [orUnknown, Traced.bind_record, Entry.calls_append]
  cases (read state).value <;> simp [Reading.log]

@[simp] theorem calls_recommendedMaxVram :
    Entry.calls (query.recommendedMaxVram state).record =
      Entry.calls (query.gpu.recommended state).record :=
  calls_orUnknown state _ _

@[simp] theorem calls_currentAllocatedVram :
    Entry.calls (query.currentAllocatedVram state).record =
      Entry.calls (query.gpu.allocated state).record :=
  calls_orUnknown state _ _

@[simp] theorem calls_physicalMemory :
    Entry.calls (query.physicalMemory state).record =
      Entry.calls (query.system.physical state).record :=
  calls_orUnknown state _ _

@[simp] theorem calls_freeMemory :
    Entry.calls (query.freeMemory state).record =
      Entry.calls (query.system.free state).record :=
  calls_orUnknown state _ _

@[simp] theorem calls_vramUsage :
    Entry.calls (query.vramUsage state).record =
      Entry.calls (query.gpu.usage state).record := by
  rw [vramUsage, Traced.bind_record, Entry.calls_append]
  cases (query.gpu.usage state).value <;> simp [Reading.log]

@[simp] theorem calls_device (library : Library) (usage : VramUsage) :
    Entry.calls (device library usage state : Outcome State (Entry Call) _).record =
      [] := by
  unfold device
  cases library.device usage <;> simp [Reading.log]

/-- The device is read only under a library. -/
theorem calls_gpu? :
    Entry.calls (query.gpu? state).record =
      Entry.calls (query.gpu.library state).record ++
        match (query.gpu.library state).value with
        | none => []
        | some _ =>
            Entry.calls (query.gpu.usage (query.gpu.library state).state).record := by
  rw [gpu?, Traced.bind_record, Entry.calls_append]
  simp only [MemoryQuery.library]
  cases (query.gpu.library state).value with
  | none => simp
  | some library =>
      simp only [Traced.bind_record, Entry.calls_append, calls_vramUsage]
      cases (query.vramUsage (query.gpu.library state).state).value <;> simp

theorem calls_capture :
    Entry.calls (query.capture state).record =
      Entry.calls (query.physicalMemory state).record ++
        Entry.calls (query.freeMemory (query.physicalMemory state).state).record ++
        Entry.calls (query.gpu? (query.freeMemory
          (query.physicalMemory state).state).state).record := by
  simp [capture, Reading.log]

end MemoryProbe.MemoryQuery
