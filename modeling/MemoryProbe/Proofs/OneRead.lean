import MemoryProbe.Machine.Metal
import MemoryProbe.Proofs.PlatformSnapshot

namespace MemoryProbe

/-! ## Both figures from one read

A backend that obtains its device once for both figures, and one that obtains it for
each of them, tell the same of a device that does not change. -/

namespace GpuSource

variable {State Call : Type}

private theorem map_eq_error_iff {Figure : Type} (figure : VramUsage → Figure)
    (read : Except QueryError VramUsage) (error : QueryError) :
    read.map figure = .error error ↔ read = .error error := by
  cases read <;> simp [Except.map]

/-- The reads of a source are those of one device when they leave it as it is and the
single figures are the two halves of the usage. -/
structure OfOneDevice (source : GpuSource State Call) (state : State) : Prop where
  unchanged : (source.recommended state).state = state
  recommended :
    (source.recommended state).value = (source.usage state).value.map (·.recommended)
  allocated : (source.allocated state).value = (source.usage state).value.map (·.allocated)

/-- How the combined read of a source compares with its single reads, where
`attempts` tells how often a list of calls tries to get hold of the device. -/
structure ReadsAtOnce (source : GpuSource State Call) (state : State)
    (attempts : List Call → Nat) : Prop where
  agrees : (source.usage state).value =
    (separateUsage source.recommended source.allocated state).value
  ok_iff : ∀ usage, (source.usage state).value = .ok usage ↔
    (source.recommended state).value = .ok usage.recommended ∧
      (source.allocated state).value = .ok usage.allocated
  recommended_error_iff : ∀ error, (source.recommended state).value = .error error ↔
    (source.usage state).value = .error error
  allocated_error_iff : ∀ error, (source.allocated state).value = .error error ↔
    (source.usage state).value = .error error
  attempts_usage : attempts (Entry.calls (source.usage state).record) = 1
  attempts_separate :
    attempts (Entry.calls
        (separateUsage source.recommended source.allocated state).record) =
      match (source.recommended state).value with
      | .ok _ => 2
      | .error _ => 1

namespace OfOneDevice

variable {source : GpuSource State Call} {state : State}

theorem usage_eq_separate (device : source.OfOneDevice state) :
    (source.usage state).value =
      (separateUsage source.recommended source.allocated state).value := by
  rw [separateUsage_value, device.unchanged, device.recommended, device.allocated]
  cases (source.usage state).value <;> rfl

theorem usage_ok_iff (device : source.OfOneDevice state) (usage : VramUsage) :
    (source.usage state).value = .ok usage ↔
      (source.recommended state).value = .ok usage.recommended ∧
        (source.allocated state).value = .ok usage.allocated := by
  rw [device.recommended, device.allocated]
  rcases usage with ⟨recommended, allocated⟩
  cases (source.usage state).value with
  | error error => simp [Except.map]
  | ok read =>
      rcases read with ⟨budget, taken⟩
      simp [Except.map]

/-- A single read that makes the calls of the combined one makes as many attempts. -/
theorem readsAtOnce (device : source.OfOneDevice state) {attempts : List Call → Nat}
    (once : attempts (Entry.calls (source.usage state).record) = 1)
    (first : attempts (Entry.calls (source.recommended state).record) = 1)
    (both : attempts (Entry.calls (source.recommended state).record ++
      Entry.calls (source.allocated state).record) = 2) :
    source.ReadsAtOnce state attempts where
  agrees := device.usage_eq_separate
  ok_iff := device.usage_ok_iff
  recommended_error_iff := by
    intro error
    rw [device.recommended]
    exact map_eq_error_iff _ _ _
  allocated_error_iff := by
    intro error
    rw [device.allocated]
    exact map_eq_error_iff _ _ _
  attempts_usage := once
  attempts_separate := by
    rw [calls_separateUsage, device.unchanged]
    cases (source.recommended state).value with
    | ok budget => exact both
    | error error => rw [List.append_nil]; exact first

end OfOneDevice

end GpuSource

/-! ## Sessions of the NVIDIA library -/

namespace NvmlLibrary

variable (library : NvmlLibrary)

/-- An `init` that finds the session shut is a new attempt to open one; an `init` after
a failed one belongs to the same attempt. -/
def openings (library : NvmlLibrary) (phase : Phase) : List NvmlCall → Nat
  | [] => 0
  | call :: rest =>
      (if phase = .shut ∧ call = .init then 1 else 0) +
        match phase.next library call with
        | some next => library.openings next rest
        | none => 0

theorem openings_append {phase middle : Phase} {left : List NvmlCall}
    (walked : library.walk phase left = some middle) (right : List NvmlCall) :
    library.openings phase (left ++ right) =
      library.openings phase left + library.openings middle right := by
  induction left generalizing phase with
  | nil =>
      cases walked
      exact (Nat.zero_add _).symm
  | cons call left induction =>
      rw [walk, List.foldlM_cons] at walked
      cases following : phase.next library call with
      | none =>
          rw [following] at walked
          cases walked
      | some next =>
          rw [following] at walked
          rw [List.cons_append, openings, openings, following]
          simp only [induction walked]
          omega

private theorem openings_openingCalls :
    library.openings .shut ([.init] ++ if library.firstInit = 0 then [] else [.init]) = 1 := by
  by_cases first : library.firstInit = 0 <;> simp [openings, Phase.next, first]

private theorem openings_deviceCalls : library.openings .opened library.deviceCalls = 0 := by
  unfold deviceCalls
  by_cases present : library.countCode = 0 ∧ library.count ≠ 0 <;>
    by_cases found : library.handleCode = 0 <;>
    simp [openings, Phase.next, present, found]

private theorem openings_sessionCalls : library.openings .shut library.sessionCalls = 1 := by
  rw [sessionCalls, library.openings_append library.walk_openingCalls, openings_openingCalls]
  by_cases opened : library.firstInit = 0 ∨ library.secondInit = 0
  · rw [if_pos opened, if_pos opened, library.openings_append library.walk_deviceCalls,
      openings_deviceCalls]
    rfl
  · rw [if_neg opened, if_neg opened]
    rfl

/-- Every read of the device is one session. -/
theorem ofOneDevice : library.source.OfOneDevice () where
  unchanged := rfl
  recommended := rfl
  allocated := rfl

theorem calls_source :
    Entry.calls (library.source.usage ()).record = library.sessionCalls ∧
      Entry.calls (library.source.recommended ()).record = library.sessionCalls ∧
      Entry.calls (library.source.allocated ()).record = library.sessionCalls := by
  have session := library.usage_spec.2
  refine ⟨session, ?_, ?_⟩ <;> simp [source, session]

theorem readsAtOnce : library.source.ReadsAtOnce () (library.openings .shut) := by
  rcases library.calls_source with ⟨usage, recommended, allocated⟩
  apply library.ofOneDevice.readsAtOnce
  · rw [usage, openings_sessionCalls]
  · rw [recommended, openings_sessionCalls]
  · rw [recommended, allocated, library.openings_append library.walk_sessionCalls,
      openings_sessionCalls]

end NvmlLibrary

namespace MetalDevice

variable (device : Option MetalDevice)

/-- Each read asks for the system default device once. -/
theorem ofOneDevice : source.OfOneDevice device := by
  cases device with
  | none => exact ⟨rfl, rfl, rfl⟩
  | some device => exact ⟨rfl, rfl, rfl⟩

theorem readsAtOnce : source.ReadsAtOnce device (List.count .device) := by
  apply (ofOneDevice device).readsAtOnce <;> cases device <;> rfl

end MetalDevice

/-! ## The figures of the platform

A read either tells the figures of the library or fails. -/

theorem NvmlLibrary.resultOf_cases (library : NvmlLibrary) (failures : List (Option QueryError)) :
    library.resultOf failures = .ok ⟨library.total, library.used⟩ ∨
      ∃ error, library.resultOf failures = .error error := by
  unfold resultOf
  cases failures.findSome? id with
  | none => exact .inl rfl
  | some error => exact .inr ⟨error, rfl⟩

namespace Machine

variable (machine : Machine)

theorem usageRead_eq :
    machine.usageRead = machine.nvml.resultOf machine.nvml.stageFailures :=
  machine.nvml.usage_spec.1

private theorem figures_of_error {error : QueryError} (failed : machine.usageRead = .error error) :
    (machine.query.recommendedMaxVram ()).value = 0 ∧
      (machine.query.currentAllocatedVram ()).value = 0 := by
  rw [recommendedMaxVram_value, currentAllocatedVram_value, failed]
  exact ⟨rfl, rfl⟩

private theorem figures_of_failure (failed : ¬machine.nvml.AllSucceed) :
    (machine.query.recommendedMaxVram ()).value = 0 ∧
      (machine.query.currentAllocatedVram ()).value = 0 := by
  rw [NvmlLibrary.allSucceed_iff, ← NvmlLibrary.resultOf_eq_ok_iff, ← usageRead_eq] at failed
  rcases machine.nvml.resultOf_cases machine.nvml.stageFailures with read | ⟨error, read⟩
  · exact absurd (machine.usageRead_eq.trans read) failed
  · exact machine.figures_of_error (machine.usageRead_eq.trans read)

theorem allocated_le_recommended (used : machine.nvml.used ≤ machine.nvml.total) :
    (machine.query.currentAllocatedVram ()).value ≤
      (machine.query.recommendedMaxVram ()).value := by
  rcases machine.nvml.resultOf_cases machine.nvml.stageFailures with read | ⟨error, read⟩
  · rw [recommendedMaxVram_value, currentAllocatedVram_value, usageRead_eq, read]
    exact used
  · rcases machine.figures_of_error (machine.usageRead_eq.trans read) with
      ⟨recommended, allocated⟩
    rw [recommended, allocated]
    exact UInt64.le_refl 0

end Machine

/-- The combined read of either backend tells what two single reads of the same device
would, failure for failure and figure for figure, and gets hold of the device once
where they do so twice. On a machine whose device uses no more than it has, the
allocation reported stays within the budget, and without a usage both are zero. -/
theorem combined_reads_agree_with_single_reads :
    (∀ library : NvmlLibrary,
      library.source.ReadsAtOnce () (library.openings .shut)) ∧
    (∀ device : Option MetalDevice,
      MetalDevice.source.ReadsAtOnce device (List.count .device)) ∧
    ∀ machine : Machine,
      (machine.nvml.used ≤ machine.nvml.total →
        (machine.query.currentAllocatedVram ()).value ≤
          (machine.query.recommendedMaxVram ()).value) ∧
      (¬machine.nvml.AllSucceed →
        (machine.query.recommendedMaxVram ()).value = 0 ∧
          (machine.query.currentAllocatedVram ()).value = 0) :=
  ⟨NvmlLibrary.readsAtOnce, MetalDevice.readsAtOnce, fun machine =>
    ⟨machine.allocated_le_recommended, machine.figures_of_failure⟩⟩

end MemoryProbe
