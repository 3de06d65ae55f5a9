import MemoryProbe.Machine.Platform
import MemoryProbe.Proofs.Calls

namespace MemoryProbe

/-! ## Sessions with the NVIDIA library

Which calls a read makes and how it ends, told by return codes alone. -/

@[simp] theorem NvmlError.ofCode_zero : NvmlError.ofCode 0 = none := rfl

theorem NvmlError.exists_ofCode {code : Nat} (nonzero : code ≠ 0) :
    ∃ failure, NvmlError.ofCode code = some failure := by
  unfold ofCode
  split <;> first | contradiction | exact ⟨_, rfl⟩

theorem NvmlError.ofCode_eq_none_iff (code : Nat) :
    NvmlError.ofCode code = none ↔ code = 0 := by
  by_cases zero : code = 0
  · simp [zero]
  · rcases exists_ofCode zero with ⟨failure, failed⟩
    simp [zero, failed]

namespace NvmlLibrary

/-- In a session that is open the calls go on as far as each succeeds. -/
def deviceCalls (library : NvmlLibrary) : List NvmlCall :=
  [.count] ++
    if library.countCode = 0 ∧ library.count ≠ 0 then
      [.handle] ++ if library.handleCode = 0 then [.memory] else []
    else []

/-- A complete session is `init`, once more if that failed, and where one of the two
opened it the calls to the device and one `shutdown`. -/
def sessionCalls (library : NvmlLibrary) : List NvmlCall :=
  [.init] ++ (if library.firstInit = 0 then [] else [.init]) ++
    if library.firstInit = 0 ∨ library.secondInit = 0 then
      library.deviceCalls ++ [.shutdown]
    else []

def openingFailure (library : NvmlLibrary) : Option NvmlError :=
  if library.firstInit = 0 then none else NvmlError.ofCode library.secondInit

def deviceFailures (library : NvmlLibrary) : List (Option QueryError) :=
  [(NvmlError.ofCode library.countCode).map .nvml,
    if library.count = 0 then some .noDevice else none,
    (NvmlError.ofCode library.handleCode).map .nvml,
    (NvmlError.ofCode library.memoryCode).map .nvml]

/-- The stages of a read in order, each with its failure if it fails. -/
def stageFailures (library : NvmlLibrary) : List (Option QueryError) :=
  library.openingFailure.map .nvml :: library.deviceFailures

/-- The first failing stage decides. -/
def resultOf (library : NvmlLibrary) (failures : List (Option QueryError)) :
    Except QueryError VramUsage :=
  match failures.findSome? id with
  | none => .ok ⟨library.total, library.used⟩
  | some failure => .error failure

def AllSucceed (library : NvmlLibrary) : Prop :=
  (library.firstInit = 0 ∨ library.secondInit = 0) ∧ library.countCode = 0 ∧
    0 < library.count ∧ library.handleCode = 0 ∧ library.memoryCode = 0

variable (library : NvmlLibrary)

/-! ## One read

A call with its return code, then the opening, the device and the whole session. -/

theorem attempt_apply (call : NvmlCall) (code : Nat) :
    attempt call code () =
      ⟨match NvmlError.ofCode code with
        | none => .ok ()
        | some failure => .error failure, (), [.call call]⟩ := rfl

theorem openSession_spec :
    (library.openSession ()).value =
        (match library.openingFailure with
          | none => .ok ()
          | some failure => .error failure) ∧
      Entry.calls (library.openSession ()).record =
        [.init] ++ if library.firstInit = 0 then [] else [.init] := by
  rw [openSession, Traced.bind_value, Traced.bind_record, attempt_apply, openingFailure]
  by_cases opened : library.firstInit = 0
  · simp [opened]
  · rcases NvmlError.exists_ofCode opened with ⟨failure, failed⟩
    simp [opened, failed, attempt_apply, Reading.log]

theorem firstDeviceUsage_spec :
    (library.firstDeviceUsage ()).value = library.resultOf library.deviceFailures ∧
      Entry.calls (library.firstDeviceUsage ()).record = library.deviceCalls := by
  rw [firstDeviceUsage, Traced.bind_value, Traced.bind_record, attempt_apply,
    deviceFailures, deviceCalls]
  by_cases counted : library.countCode = 0
  case neg =>
      rcases NvmlError.exists_ofCode counted with ⟨failure, failed⟩
      simp [counted, failed, resultOf]
  by_cases noDevice : library.count = 0
  · simp [counted, noDevice, resultOf]
  by_cases found : library.handleCode = 0
  case neg =>
      rcases NvmlError.exists_ofCode found with ⟨failure, failed⟩
      simp [counted, noDevice, found, failed, attempt_apply, resultOf]
  by_cases read : library.memoryCode = 0
  case neg =>
      rcases NvmlError.exists_ofCode read with ⟨failure, failed⟩
      simp [counted, noDevice, found, failed, attempt_apply, resultOf]
  simp [counted, noDevice, found, read, attempt_apply, resultOf]

private theorem openingFailure_eq_none_iff :
    library.openingFailure = none ↔ library.firstInit = 0 ∨ library.secondInit = 0 := by
  unfold openingFailure
  by_cases opened : library.firstInit = 0 <;>
    simp [opened, NvmlError.ofCode_eq_none_iff]

theorem usage_spec :
    (library.usage ()).value = library.resultOf library.stageFailures ∧
      Entry.calls (library.usage ()).record = library.sessionCalls := by
  rcases library.openSession_spec with ⟨openValue, openCalls⟩
  rcases library.firstDeviceUsage_spec with ⟨deviceValue, deviceCalls⟩
  have opened := library.openingFailure_eq_none_iff
  rw [usage, Traced.bind_value, Traced.bind_record, openValue, Entry.calls_append,
    openCalls, stageFailures, sessionCalls]
  cases failed : library.openingFailure with
  | none =>
      rw [if_pos (opened.mp failed)]
      simp [deviceValue, deviceCalls, Reading.call, resultOf]
  | some failure =>
      have refused : ¬(library.firstInit = 0 ∨ library.secondInit = 0) := by
        rw [← opened, failed]
        simp
      rw [if_neg refused]
      simp [resultOf]

/-! ## How a read ends -/

theorem allSucceed_iff :
    library.AllSucceed ↔ ∀ stage ∈ library.stageFailures, stage = none := by
  simp [AllSucceed, stageFailures, deviceFailures, openingFailure_eq_none_iff,
    NvmlError.ofCode_eq_none_iff, Nat.pos_iff_ne_zero]

def FirstFailure (failures : List (Option QueryError)) (error : QueryError) : Prop :=
  ∃ before after, failures = before ++ some error :: after ∧
    ∀ stage ∈ before, stage = none

theorem resultOf_eq_ok_iff (failures : List (Option QueryError)) :
    library.resultOf failures = .ok ⟨library.total, library.used⟩ ↔
      ∀ stage ∈ failures, stage = none := by
  have none_iff : failures.findSome? id = none ↔ ∀ stage ∈ failures, stage = none :=
    List.findSome?_eq_none_iff
  rw [← none_iff, resultOf]
  cases failures.findSome? id <;> simp

theorem resultOf_eq_error_iff (failures : List (Option QueryError)) (error : QueryError) :
    library.resultOf failures = .error error ↔ FirstFailure failures error := by
  have some_iff : failures.findSome? id = some error ↔ FirstFailure failures error := by
    rw [List.findSome?_eq_some_iff]
    constructor
    · intro ⟨before, stage, after, split, failed, clear⟩
      exact ⟨before, after, by rw [split, ← failed]; rfl, clear⟩
    · intro ⟨before, after, split, clear⟩
      exact ⟨before, some error, after, split, rfl, clear⟩
  rw [← some_iff, resultOf]
  cases failures.findSome? id <;> simp

/-! ## Open and shut -/

/-- A walk through a trace of calls follows the session: shut, with its first `init`
failed, or open. -/
inductive Phase where
  | shut
  | retrying
  | opened
  deriving DecidableEq, Repr

def Phase.next (library : NvmlLibrary) : Phase → NvmlCall → Option Phase
  | .shut, .init => some (if library.firstInit = 0 then .opened else .retrying)
  | .retrying, .init => some (if library.secondInit = 0 then .opened else .shut)
  | .opened, .count => some .opened
  | .opened, .handle => some .opened
  | .opened, .memory => some .opened
  | .opened, .shutdown => some .shut
  | _, _ => none

/-- A walk gives out where a call does not fit the phase. -/
def walk (phase : Phase) (calls : List NvmlCall) : Option Phase :=
  calls.foldlM (Phase.next library) phase

theorem walk_append (phase : Phase) (left right : List NvmlCall) :
    library.walk phase (left ++ right) =
      (library.walk phase left).bind (library.walk · right) := by
  simp [walk, List.foldlM_append]

theorem walk_deviceCalls : library.walk .opened library.deviceCalls = some .opened := by
  unfold deviceCalls
  by_cases present : library.countCode = 0 ∧ library.count ≠ 0 <;>
    by_cases found : library.handleCode = 0 <;>
    simp [walk, Phase.next, present, found]

theorem walk_openingCalls :
    library.walk .shut ([.init] ++ if library.firstInit = 0 then [] else [.init]) =
      some (if library.firstInit = 0 ∨ library.secondInit = 0 then .opened else .shut) := by
  by_cases first : library.firstInit = 0 <;> simp [walk, Phase.next, first]

theorem walk_sessionCalls : library.walk .shut library.sessionCalls = some .shut := by
  rw [sessionCalls, walk_append, walk_openingCalls]
  by_cases opened : library.firstInit = 0 ∨ library.secondInit = 0
  · rw [if_pos opened, if_pos opened, Option.bind_some, walk_append, walk_deviceCalls]
    rfl
  · rw [if_neg opened, if_neg opened]
    rfl

theorem walk_sessions (sessions : Nat) :
    library.walk .shut (List.replicate sessions library.sessionCalls).flatten =
      some .shut := by
  induction sessions with
  | zero => rfl
  | succ sessions induction =>
      rw [List.replicate_succ, List.flatten_cons, walk_append, walk_sessionCalls]
      exact induction

end NvmlLibrary

/-! ## Runs of a machine

A step that reads the GPU makes the calls of one session, whichever figure it is
after; the others make none. -/

namespace Machine

def Step.readsGpu : Step → Bool
  | .nvmlRecommended => true
  | .nvmlAllocated => true
  | .nvmlUsage => true
  | .recommendedMaxVram => true
  | .currentAllocatedVram => true
  | .capture => true
  | .library => false
  | .systemPhysical => false
  | .systemFree => false
  | .physicalMemory => false
  | .freeMemory => false

/-- What a source read of the GPU answers when the device's usage reads so. -/
def Step.sourceAnswer? (result : Except QueryError VramUsage) : Step → Option Answer
  | .nvmlRecommended => some (.readFigure (result.map (·.recommended)))
  | .nvmlAllocated => some (.readFigure (result.map (·.allocated)))
  | .nvmlUsage => some (.readUsage result)
  | _ => none

variable (machine : Machine)

theorem calls_perform (step : Step) :
    Entry.calls (machine.perform step ()).record =
      if step.readsGpu then machine.nvml.sessionCalls else [] := by
  have session := machine.nvml.usage_spec.2
  cases step <;>
    simp [perform, Step.readsGpu, query, system, MemInfo.source, MemoryQuery.library,
      NvmlLibrary.source, MemoryQuery.calls_capture, MemoryQuery.calls_gpu?, session]

theorem value_perform {step : Step} {answer : Answer}
    (asked : step.sourceAnswer? (machine.nvml.resultOf machine.nvml.stageFailures) =
      some answer) :
    (machine.perform step ()).value = answer := by
  have usage := machine.nvml.usage_spec.1
  cases step <;> simp_all [Step.sourceAnswer?, perform, NvmlLibrary.source]

theorem calls_run (steps : List Step) :
    Entry.calls ((machine.runSteps steps).flatMap (·.record)) =
      (List.replicate (steps.countP Step.readsGpu) machine.nvml.sessionCalls).flatten := by
  induction steps with
  | nil => rfl
  | cons step rest induction =>
      rw [runSteps, List.map_cons, List.flatMap_cons, Entry.calls_append, calls_perform,
        ← runSteps, induction]
      cases reads : step.readsGpu <;> simp [reads, List.replicate_succ]

private theorem eq_perform_of_mem_zip {steps : List Step} {step : Step}
    {outcome : Outcome Unit (Entry NvmlCall) Answer}
    (member : (step, outcome) ∈ steps.zip (machine.runSteps steps)) :
    outcome = machine.perform step () := by
  induction steps with
  | nil => cases member
  | cons first rest induction =>
      rw [runSteps, List.map_cons, List.zip_cons_cons] at member
      rcases List.mem_cons.mp member with here | later
      · cases here
        rfl
      · exact induction later

/-- Over any run every step that reads the GPU makes the calls of exactly one
complete session and no other step makes any, so nothing is left open. A source
read succeeds exactly if all stages do, and otherwise its error is that of the first
stage that fails. -/
theorem nvml_sessions_complete (steps : List Step) :
    (machine.runSteps steps).map (fun outcome => Entry.calls outcome.record) =
        steps.map (fun step =>
          if step.readsGpu then machine.nvml.sessionCalls else []) ∧
      Entry.calls ((machine.runSteps steps).flatMap (·.record)) =
        (List.replicate (steps.countP Step.readsGpu)
          machine.nvml.sessionCalls).flatten ∧
      machine.nvml.walk .shut
        (Entry.calls ((machine.runSteps steps).flatMap (·.record))) = some .shut ∧
      ∃ result : Except QueryError VramUsage,
        (∀ step outcome, (step, outcome) ∈ steps.zip (machine.runSteps steps) →
          ∀ answer, step.sourceAnswer? result = some answer → outcome.value = answer) ∧
        (result = .ok ⟨machine.nvml.total, machine.nvml.used⟩ ↔
          machine.nvml.AllSucceed) ∧
        ∀ error, result = .error error ↔
          NvmlLibrary.FirstFailure machine.nvml.stageFailures error := by
  refine ⟨?_, machine.calls_run steps, ?_, machine.nvml.resultOf machine.nvml.stageFailures,
    ?_, ?_, machine.nvml.resultOf_eq_error_iff _⟩
  · rw [runSteps, List.map_map]
    exact List.map_congr_left fun step _ => machine.calls_perform step
  · rw [calls_run]
    exact machine.nvml.walk_sessions _
  · intro step outcome member answer asked
    rw [machine.eq_perform_of_mem_zip member]
    exact machine.value_perform asked
  · rw [NvmlLibrary.allSucceed_iff]
    exact machine.nvml.resultOf_eq_ok_iff _

end Machine

end MemoryProbe
