import MemoryProbe.Machine.MemInfo

namespace MemoryProbe

/-! ## What a capture finds of the GPU

A capture reads the two system figures first. Its device depends on the library
and the usage that are told in the state those reads leave behind. -/

theorem Library.minimumMemory_pos (library : Library) :
    0 < library.minimumMemory.toNat := by
  cases library <;> decide

/-- A budget of zero lies below every minimum, so a combined read that hides it
hides no device. -/
theorem Library.device_eq_none_of_zero (library : Library) (usage : VramUsage)
    (zero : ¬0 < usage.recommended) : library.device usage = none := by
  have positive := library.minimumMemory_pos
  have recommendedZero : usage.recommended.toNat = 0 := by
    simpa [UInt64.lt_iff_toNat_lt] using zero
  have below : usage.recommended < library.minimumMemory := by
    rw [UInt64.lt_iff_toNat_lt]
    omega
  simp [Library.device, below]

/-- A usable device is one whose budget reaches the library's minimum. -/
theorem Library.device_eq_none_iff (library : Library) (usage : VramUsage) :
    library.device usage = none ↔ usage.recommended < library.minimumMemory := by
  by_cases below : usage.recommended < library.minimumMemory <;> simp [device, below]

theorem Library.of_device_eq_some {library : Library} {usage : VramUsage} {gpu : GpuInfo}
    (found : library.device usage = some gpu) :
    gpu = ⟨library, "0", usage.recommended, usage.recommended.minus usage.allocated,
      library.minimumMemory⟩ ∧ library.minimumMemory ≤ usage.recommended := by
  by_cases below : usage.recommended < library.minimumMemory
  · rw [device, if_pos below] at found
    cases found
  · rw [device, if_neg below] at found
    exact ⟨(Option.some.inj found).symm, UInt64.not_lt.mp below⟩

namespace MemoryQuery

variable {State Call : Type} (query : MemoryQuery State Call) (state : State)

theorem vramUsage_value :
    (query.vramUsage state).value =
      match (query.gpu.usage state).value with
      | .ok usage => if 0 < usage.recommended then some usage else none
      | .error _ => none := by
  rw [vramUsage, Traced.bind_value]
  cases (query.gpu.usage state).value <;> rfl

theorem device_value (library : Library) (usage : VramUsage) :
    ((device library usage : Reading State Call _) state).value =
      library.device usage := by
  unfold device
  cases library.device usage <;> rfl

theorem gpu?_value :
    (query.gpu? state).value = (query.gpu.library state).value.bind fun library =>
      (query.vramUsage (query.gpu.library state).state).value.bind library.device := by
  rw [gpu?, Traced.bind_value]
  simp only [MemoryQuery.library]
  cases (query.gpu.library state).value with
  | none => rfl
  | some library =>
      simp only [Traced.bind_value, Option.bind_some]
      cases (query.vramUsage (query.gpu.library state).state).value with
      | none => rfl
      | some usage => exact device_value _ library usage

/-- The state in which a capture turns to the GPU, and what it is told there. -/
def gpuState : State :=
  (query.freeMemory (query.physicalMemory state).state).state

structure Reports (library : Library) (usage : VramUsage) : Prop where
  library : (query.gpu.library (query.gpuState state)).value = some library
  usage : (query.gpu.usage (query.gpu.library (query.gpuState state)).state).value =
    .ok usage

theorem capture_gpu :
    (query.capture state).value.gpu = (query.gpu? (query.gpuState state)).value := rfl

theorem Reports.capture_gpu {query : MemoryQuery State Call} {state : State}
    {library : Library} {usage : VramUsage}
    (reports : query.Reports state library usage) :
    (query.capture state).value.gpu = library.device usage := by
  rw [MemoryQuery.capture_gpu, gpu?_value, reports.library, Option.bind_some,
    vramUsage_value, reports.usage]
  by_cases positive : 0 < usage.recommended
  · simp [positive]
  · simp [positive, library.device_eq_none_of_zero usage positive]

/-- Figures taken from the kernel's memory table leave the sources as they are. -/
theorem gpuState_of_memInfo (gpu : GpuSource State Call) (info : MemInfo) :
    (MemoryQuery.mk gpu info.source).gpuState state = state := by
  simp only [gpuState, physicalMemory, freeMemory, orUnknown, Traced.bind_state,
    MemInfo.source, Traced.pure_apply]
  cases info.physical <;> cases info.freeEstimate <;> rfl

end MemoryQuery

end MemoryProbe
