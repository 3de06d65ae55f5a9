import MemoryProbe.Proofs.NvmlSession
import MemoryProbe.Proofs.Queries

namespace MemoryProbe

private theorem ByteCount.toNat_min (left right : ByteCount) :
    (min left right).toNat = min left.toNat right.toNat := by
  change (if left ≤ right then left else right).toNat = _
  by_cases ordered : left ≤ right
  · rw [if_pos ordered, Nat.min_eq_left (UInt64.le_iff_toNat_le.mp ordered)]
  · have reversed : right.toNat ≤ left.toNat := by
      rw [UInt64.le_iff_toNat_le] at ordered
      omega
    rw [if_neg ordered, Nat.min_eq_right reversed]

/-! ## System memory as reported

Both reads refuse a table without a total, and a total of zero is reported as zero
all the same. The free figure never exceeds the total it is read with. -/

namespace MemInfo

open MemoryQuery (reported)

variable (info : MemInfo)

def availableOrFree (info : MemInfo) : ByteCount :=
  if info.usable = 0 then info.free else info.usable

theorem reads_unavailable (unknown : info.total = 0) :
    info.physical = .error .systemUnavailable ∧
      info.freeEstimate = .error .systemUnavailable := by
  simp [physical, freeEstimate, unknown]

theorem reported_physical : reported info.physical = info.total := by
  by_cases unknown : info.total = 0
  · rw [(info.reads_unavailable unknown).1, unknown]
    rfl
  · simp [physical, unknown, reported]

theorem toNat_reported_freeEstimate :
    (reported info.freeEstimate).toNat = min info.total.toNat info.availableOrFree.toNat := by
  by_cases unknown : info.total = 0
  · rw [(info.reads_unavailable unknown).2, unknown]
    exact (Nat.zero_min _).symm
  · rw [freeEstimate, if_neg unknown, reported, ByteCount.toNat_min, Nat.min_comm]
    rfl

end MemInfo

namespace Machine

variable (machine : Machine)

/-! ## The device of a platform capture

All GPU figures of the platform come from one read of the library, whoever asks. -/

def usageRead (machine : Machine) : Except QueryError VramUsage :=
  (machine.nvml.usage ()).value

theorem recommendedMaxVram_value :
    (machine.query.recommendedMaxVram ()).value =
      MemoryQuery.reported (machine.usageRead.map (·.recommended)) :=
  MemoryQuery.orUnknown_value _ _ _

theorem currentAllocatedVram_value :
    (machine.query.currentAllocatedVram ()).value =
      MemoryQuery.reported (machine.usageRead.map (·.allocated)) :=
  MemoryQuery.orUnknown_value _ _ _

theorem capture_system :
    (machine.query.capture ()).value.system =
      ⟨(machine.query.physicalMemory ()).value, (machine.query.freeMemory ()).value⟩ := rfl

private theorem capture_gpu_of_read {usage : VramUsage} (read : machine.usageRead = .ok usage) :
    (machine.query.capture ()).value.gpu = Library.nvml.device usage := by
  have reports : machine.query.Reports () .nvml usage := ⟨rfl, read⟩
  exact reports.capture_gpu

private theorem capture_gpu_of_error {error : QueryError}
    (failed : machine.usageRead = .error error) :
    (machine.query.capture ()).value.gpu = none := by
  have failedUsage : (machine.query.gpu.usage ()).value = .error error := failed
  have library : (machine.query.gpu.library ()).value = some .nvml := rfl
  rw [MemoryQuery.capture_gpu, MemoryQuery.gpu?_value, library, Option.bind_some,
    MemoryQuery.vramUsage_value, failedUsage]
  rfl

/-! ## What a machine tells

The answers to the steps of a machine, each taken from the step run alone. -/

def table (machine : Machine) : MemInfo :=
  MemInfo.ofText? machine.memInfo

structure Figures where
  physicalRead : Except QueryError ByteCount
  freeRead : Except QueryError ByteCount
  usageRead : Except QueryError VramUsage
  physical : ByteCount
  free : ByteCount
  recommended : ByteCount
  allocated : ByteCount
  snapshot : Snapshot

def figures (machine : Machine) : Figures where
  physicalRead := (machine.system.physical ()).value
  freeRead := (machine.system.free ()).value
  usageRead := machine.usageRead
  physical := (machine.query.physicalMemory ()).value
  free := (machine.query.freeMemory ()).value
  recommended := (machine.query.recommendedMaxVram ()).value
  allocated := (machine.query.currentAllocatedVram ()).value
  snapshot := (machine.query.capture ()).value

def Figures.answer (figures : Figures) : Step → Answer
  | .library => .library (some .nvml)
  | .nvmlRecommended => .readFigure (figures.usageRead.map (·.recommended))
  | .nvmlAllocated => .readFigure (figures.usageRead.map (·.allocated))
  | .nvmlUsage => .readUsage figures.usageRead
  | .systemPhysical => .readFigure figures.physicalRead
  | .systemFree => .readFigure figures.freeRead
  | .recommendedMaxVram => .figure figures.recommended
  | .currentAllocatedVram => .figure figures.allocated
  | .physicalMemory => .figure figures.physical
  | .freeMemory => .figure figures.free
  | .capture => .snapshot figures.snapshot

theorem value_runSteps (steps : List Step) :
    (machine.runSteps steps).map (·.value) = steps.map machine.figures.answer := by
  rw [runSteps, List.map_map]
  apply List.map_congr_left
  intro step _
  cases step <;> rfl

/-- The device of a snapshot stands for the budget and the allocation that the two
scalar queries report. -/
structure DescribesDevice (figures : Figures) (gpu : GpuInfo) : Prop where
  library : gpu.library = .nvml
  id : gpu.id = "0"
  total : gpu.total = figures.recommended
  free : gpu.free.toNat = figures.recommended.toNat - figures.allocated.toNat
  minimum : gpu.minimum = 457 * ByteCount.mebibyte

structure Figures.Consistent (info : MemInfo) (figures : Figures) : Prop where
  free_le_physical : figures.free ≤ figures.physical
  physical_eq_zero_iff : figures.physical = 0 ↔ info.total = 0
  unavailable : info.total = 0 →
    figures.physicalRead = .error .systemUnavailable ∧
      figures.freeRead = .error .systemUnavailable ∧
      figures.physical = 0 ∧ figures.free = 0
  free_of_total : info.total ≠ 0 →
    figures.free.toNat = min info.total.toNat
      (if info.usable = 0 then info.free else info.usable).toNat
  system : figures.snapshot.system = ⟨figures.physical, figures.free⟩
  gpu_eq_none_iff :
    figures.snapshot.gpu = none ↔ figures.recommended < 457 * ByteCount.mebibyte
  device : ∀ gpu, figures.snapshot.gpu = some gpu →
    DescribesDevice figures gpu ∧ gpu.free ≤ gpu.total ∧ gpu.minimum ≤ gpu.total

variable {machine}

private theorem gpu_eq_none_iff :
    machine.figures.snapshot.gpu = none ↔
      machine.figures.recommended < 457 * ByteCount.mebibyte := by
  have recommended : machine.figures.recommended = _ := machine.recommendedMaxVram_value
  cases read : machine.usageRead with
  | error failure =>
      have absent : machine.figures.snapshot.gpu = none := machine.capture_gpu_of_error read
      have positive : (0 : ByteCount) < 457 * ByteCount.mebibyte := by decide
      rw [absent, recommended, read]
      exact iff_of_true rfl positive
  | ok usage =>
      have found : machine.figures.snapshot.gpu = Library.nvml.device usage :=
        machine.capture_gpu_of_read read
      rw [found, recommended, read]
      exact Library.nvml.device_eq_none_iff usage

private theorem describesDevice {gpu : GpuInfo}
    (present : machine.figures.snapshot.gpu = some gpu) :
    DescribesDevice machine.figures gpu ∧ gpu.free ≤ gpu.total ∧ gpu.minimum ≤ gpu.total := by
  cases read : machine.usageRead with
  | error failure =>
      have absent : machine.figures.snapshot.gpu = none := machine.capture_gpu_of_error read
      rw [absent] at present
      cases present
  | ok usage =>
      have found : machine.figures.snapshot.gpu = Library.nvml.device usage :=
        machine.capture_gpu_of_read read
      have recommended : machine.figures.recommended = usage.recommended := by
        rw [figures, recommendedMaxVram_value, read]
        rfl
      have allocated : machine.figures.allocated = usage.allocated := by
        rw [figures, currentAllocatedVram_value, read]
        rfl
      rw [found] at present
      rcases Library.of_device_eq_some present with ⟨rfl, reached⟩
      refine ⟨⟨rfl, rfl, recommended.symm, ?_, rfl⟩, ?_, reached⟩
      · rw [recommended, allocated]
        exact ByteCount.toNat_minus _ _
      · rw [UInt64.le_iff_toNat_le, ByteCount.toNat_minus]
        exact Nat.sub_le _ _

private theorem physical_eq_total : machine.figures.physical = machine.table.total := by
  rw [← machine.table.reported_physical]
  exact MemoryQuery.orUnknown_value _ _ _

private theorem toNat_free : machine.figures.free.toNat =
    min machine.table.total.toNat machine.table.availableOrFree.toNat := by
  rw [← machine.table.toNat_reported_freeEstimate]
  exact congrArg UInt64.toNat (MemoryQuery.orUnknown_value _ _ _)

theorem figures_consistent : machine.figures.Consistent machine.table where
  free_le_physical := by
    rw [physical_eq_total, UInt64.le_iff_toNat_le, toNat_free]
    exact Nat.min_le_left _ _
  physical_eq_zero_iff := by rw [physical_eq_total]
  unavailable := by
    intro unknown
    rcases machine.table.reads_unavailable unknown with ⟨physical, free⟩
    refine ⟨physical, free, physical_eq_total.trans unknown, ?_⟩
    apply UInt64.toNat_inj.mp
    rw [toNat_free, unknown]
    exact Nat.zero_min _
  free_of_total := fun _ => toNat_free
  system := machine.capture_system
  gpu_eq_none_iff := gpu_eq_none_iff
  device := fun _ => describesDevice

/-- Whatever is asked in whatever order, a machine answers each step with the same
figure every time; and those figures agree with one another, with the memory table
and with the snapshot. -/
theorem platform_snapshot_consistent (machine : Machine) :
    (∀ steps, (machine.runSteps steps).map (·.value) = steps.map machine.figures.answer) ∧
      machine.figures.Consistent machine.table :=
  ⟨machine.value_runSteps, figures_consistent⟩

end Machine

end MemoryProbe
