import MemoryProbe.Proofs.Calls
import MemoryProbe.Proofs.Capture

namespace MemoryProbe

/-! ## What a query answers, leaves behind and notes

Each query is told in terms of its source: the value it makes of the source's
answer, the state the source is left in, and the events noted on the way. -/

variable {State Call : Type}

/-- A figure that cannot be read counts as zero. -/
def MemoryQuery.reported : Except QueryError ByteCount → ByteCount
  | .ok figure => figure
  | .error _ => 0

namespace GpuSource

open MemoryQuery (reported)

/-- A budget that cannot be read leaves nothing to combine. -/
def combined (recommended allocated : Except QueryError ByteCount) :
    Except QueryError VramUsage :=
  recommended.map fun budget => ⟨budget, reported allocated⟩

def allocationUnavailable : Except QueryError ByteCount → List Log.Event
  | .ok _ => []
  | .error error => [.allocationUnavailable error]

section

variable (recommended allocated : Reading State Call (Except QueryError ByteCount))
  (state : State)

theorem separateUsage_value :
    (separateUsage recommended allocated state).value =
      combined (recommended state).value (allocated (recommended state).state).value := by
  rw [separateUsage, Traced.bind_value]
  cases (recommended state).value with
  | error error => rfl
  | ok budget =>
      rw [Traced.bind_value]
      cases (allocated (recommended state).state).value <;> rfl

theorem calls_separateUsage :
    Entry.calls (separateUsage recommended allocated state).record =
      Entry.calls (recommended state).record ++
        match (recommended state).value with
        | .ok _ => Entry.calls (allocated (recommended state).state).record
        | .error _ => [] := by
  rw [separateUsage, Traced.bind_record, Entry.calls_append]
  cases (recommended state).value with
  | error error => rfl
  | ok budget =>
      rw [Traced.bind_record, Entry.calls_append]
      cases (allocated (recommended state).state).value <;> simp [Reading.log]

theorem events_separateUsage :
    Entry.events (separateUsage recommended allocated state).record =
      Entry.events (recommended state).record ++
        match (recommended state).value with
        | .error _ => []
        | .ok _ =>
            Entry.events (allocated (recommended state).state).record ++
              allocationUnavailable (allocated (recommended state).state).value := by
  rw [separateUsage, Traced.bind_record, Entry.events_append]
  cases (recommended state).value with
  | error error => rfl
  | ok budget =>
      rw [Traced.bind_record, Entry.events_append]
      cases (allocated (recommended state).state).value <;> rfl

end

end GpuSource

namespace MemoryQuery

variable (query : MemoryQuery State Call) (state : State)

/-! ## Scalar queries

One event names the query and the failure. -/

def unavailable (scalar : Log.ScalarQuery) : Except QueryError ByteCount → List Log.Event
  | .ok _ => []
  | .error error => [.queryUnavailable scalar error]

section

variable (scalar : Log.ScalarQuery) (read : Reading State Call (Except QueryError ByteCount))

theorem orUnknown_value :
    (orUnknown scalar read state).value = reported (read state).value := by
  rw [orUnknown, Traced.bind_value]
  cases (read state).value <;> rfl

theorem orUnknown_state : (orUnknown scalar read state).state = (read state).state := by
  rw [orUnknown, Traced.bind_state]
  cases (read state).value <;> rfl

theorem events_orUnknown :
    Entry.events (orUnknown scalar read state).record =
      Entry.events (read state).record ++ unavailable scalar (read state).value := by
  rw [orUnknown, Traced.bind_record, Entry.events_append]
  cases (read state).value <;> rfl

end

/-! ## The combined query -/

/-- A usage without a budget is not offered. No device is lost by that: its budget would
lie below every minimum. -/
def offered : Except QueryError VramUsage → Option VramUsage
  | .ok usage => if 0 < usage.recommended then some usage else none
  | .error _ => none

theorem offered_bind_device (library : Library) (read : Except QueryError VramUsage) :
    (offered read).bind library.device = read.toOption.bind library.device := by
  cases read with
  | error error => rfl
  | ok usage =>
      by_cases positive : 0 < usage.recommended
      · rw [offered, if_pos positive]
        rfl
      · rw [offered, if_neg positive]
        exact (library.device_eq_none_of_zero usage positive).symm

theorem vramUsage_eq_offered :
    (query.vramUsage state).value = offered (query.gpu.usage state).value := by
  rw [vramUsage_value]
  cases (query.gpu.usage state).value <;> rfl

def usageUnavailable : Except QueryError VramUsage → List Log.Event
  | .ok _ => []
  | .error error => [.usageUnavailable error]

theorem vramUsage_state : (query.vramUsage state).state = (query.gpu.usage state).state := by
  rw [vramUsage, Traced.bind_state]
  cases (query.gpu.usage state).value <;> rfl

theorem events_vramUsage :
    Entry.events (query.vramUsage state).record =
      Entry.events (query.gpu.usage state).record ++
        usageUnavailable (query.gpu.usage state).value := by
  rw [vramUsage, Traced.bind_record, Entry.events_append]
  cases (query.gpu.usage state).value <;> rfl

/-! ## The device and the capture -/

def belowMinimum (library : Library) (recommended : ByteCount) : List Log.Event :=
  if 0 < recommended ∧ recommended < library.minimumMemory then
    [.belowMinimum library recommended]
  else []

/-- A usage that was read is noted only when its budget is positive and lies below the
library's minimum: a budget of zero never gets as far as the device. -/
def usageEvents (library : Library) : Except QueryError VramUsage → List Log.Event
  | .ok usage => belowMinimum library usage.recommended
  | .error error => [.usageUnavailable error]

theorem device_state (library : Library) (usage : VramUsage) :
    ((device library usage : Reading State Call _) state).state = state := by
  unfold device
  cases library.device usage <;> rfl

theorem events_device (library : Library) {usage : VramUsage}
    (positive : 0 < usage.recommended) :
    Entry.events ((device library usage : Reading State Call _) state).record =
      belowMinimum library usage.recommended := by
  unfold device belowMinimum Library.device
  by_cases below : usage.recommended < library.minimumMemory
  · simp [below, positive, Reading.log]
  · simp [below]

theorem gpu?_state :
    (query.gpu? state).state =
      match (query.gpu.library state).value with
      | none => (query.gpu.library state).state
      | some _ => (query.gpu.usage (query.gpu.library state).state).state := by
  rw [gpu?, Traced.bind_state]
  simp only [MemoryQuery.library]
  cases (query.gpu.library state).value with
  | none => rfl
  | some library =>
      simp only [Traced.bind_state]
      rw [← vramUsage_state]
      cases (query.vramUsage (query.gpu.library state).state).value with
      | none => rfl
      | some usage => exact device_state _ library usage

theorem events_gpu? :
    Entry.events (query.gpu? state).record =
      Entry.events (query.gpu.library state).record ++
        match (query.gpu.library state).value with
        | none => []
        | some library =>
            Entry.events (query.gpu.usage (query.gpu.library state).state).record ++
              usageEvents library
                (query.gpu.usage (query.gpu.library state).state).value := by
  rw [gpu?, Traced.bind_record, Entry.events_append]
  simp only [MemoryQuery.library]
  cases (query.gpu.library state).value with
  | none => rfl
  | some library =>
      simp only [Traced.bind_record, Entry.events_append, events_vramUsage,
        vramUsage_value]
      cases (query.gpu.usage (query.gpu.library state).state).value with
      | error error => simp [usageEvents, usageUnavailable]
      | ok usage =>
          by_cases positive : 0 < usage.recommended
          · simp [positive, usageEvents, usageUnavailable, events_device]
          · simp [positive, usageEvents, usageUnavailable, belowMinimum]

theorem capture_state :
    (query.capture state).state = (query.gpu? (query.gpuState state)).state := rfl

theorem events_capture :
    Entry.events (query.capture state).record =
      Entry.events (query.physicalMemory state).record ++
        Entry.events (query.freeMemory (query.physicalMemory state).state).record ++
        Entry.events (query.gpu? (query.gpuState state)).record ++
        [.captured (query.capture state).value] := by
  simp only [capture, Traced.bind_record, Entry.events_append, List.append_assoc]
  rfl

end MemoryQuery

end MemoryProbe
