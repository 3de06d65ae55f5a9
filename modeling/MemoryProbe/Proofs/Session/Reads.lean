import Mathlib.Data.List.Flatten
import MemoryProbe.Proofs.Session.Exchange

namespace MemoryProbe.Session

/-! ## What each step reads

The methods a step asks, in order. An inherited combined read goes on to the
allocation only with a budget in hand, and a capture turns to the device only under
a library. -/

namespace GpuKind

def usageReads (kind : GpuKind) (script : Script) : List Method :=
  match kind with
  | .single => [.vramUsage]
  | _ =>
      [.recommendedMaxVram] ++
        match kind.reply script .recommendedMaxVram with
        | .ok _ => [.currentAllocatedVram]
        | .error _ => []

def deviceReads (kind : GpuKind) (script : Script) : List Method :=
  [.library] ++
    match kind.reply script .library with
    | none => []
    | some _ => kind.usageReads script

def captureReads (kind : GpuKind) (script : Script) : List Method :=
  [.physicalMemory, .freeMemory] ++ kind.deviceReads script

end GpuKind

def Step.reads (kind : GpuKind) (script : Script) : Step → List Method
  | .library => [.library]
  | .recommendedMaxVram => [.recommendedMaxVram]
  | .currentAllocatedVram => [.currentAllocatedVram]
  | .physicalMemory => [.physicalMemory]
  | .freeMemory => [.freeMemory]
  | .vramUsage => kind.usageReads script
  | .capture => kind.captureReads script
  | .text => []
  | .fits _ => []
  | .same => []
  | .set _ => []

/-! ## Following a list of methods -/

/-- A reading follows a list of methods when it calls the scripted ones among them and
leaves the script with each of them consumed, in order. -/
structure Follows {Value : Type} (kind : GpuKind) (methods : List Method) (script : Script)
    (outcome : Outcome Script (Entry Method) Value) : Prop where
  calls : Entry.calls outcome.record = methods.filter kind.scripts
  state : outcome.state = methods.foldl kind.after script

namespace Follows

variable (kind : GpuKind) (script : Script)

theorem ask (method : Method) : Follows kind [method] script (kind.ask method script) := by
  refine ⟨?_, rfl⟩
  cases scripted : kind.scripts method <;> simp [GpuKind.ask, scripted]

variable {kind script}

theorem orUnknown {methods : List Method} (scalar : Log.ScalarQuery)
    {read : Reading Script Method (Except QueryError ByteCount)}
    (follows : Follows kind methods script (read script)) :
    Follows kind methods script (MemoryQuery.orUnknown scalar read script) where
  calls := by rw [MemoryQuery.calls_orUnknown, follows.calls]
  state := by rw [MemoryQuery.orUnknown_state, follows.state]

theorem separateUsage {recommended allocated : Reading Script Method (Except QueryError ByteCount)}
    {first second : List Method}
    (budget : Follows kind first script (recommended script))
    (taken : Follows kind second (recommended script).state
      (allocated (recommended script).state)) :
    Follows kind (first ++ match (recommended script).value with
      | .ok _ => second
      | .error _ => []) script (GpuSource.separateUsage recommended allocated script) := by
  constructor
  · rw [GpuSource.calls_separateUsage, budget.calls, List.filter_append]
    cases (recommended script).value with
    | error error => rfl
    | ok figure => exact congrArg _ taken.calls
  · rw [GpuSource.separateUsage, Traced.bind_state, List.foldl_append, ← budget.state]
    cases (recommended script).value with
    | error error => rfl
    | ok figure =>
        rw [Traced.bind_state, ← taken.state]
        cases (allocated (recommended script).state).value <;> rfl

end Follows

section

variable (kind : GpuKind) (script : Script)

theorem usageReads_after {other : Method} (different : other ≠ .recommendedMaxVram) :
    kind.usageReads (kind.after script other) = kind.usageReads script := by
  cases kind <;>
    simp only [GpuKind.usageReads, GpuKind.reply_after_of_ne script different]

theorem usageReads_of_ne {kind : GpuKind} (separate : kind ≠ .single) :
    kind.usageReads script =
      [.recommendedMaxVram] ++ match kind.reply script .recommendedMaxVram with
        | .ok _ => [.currentAllocatedVram]
        | .error _ => [] := by
  cases kind <;> first | rfl | contradiction

theorem usage_follows :
    Follows kind (kind.usageReads script) script ((query kind).gpu.usage script) := by
  by_cases single : kind = .single
  · subst single
    exact Follows.ask .single script .vramUsage
  · have budget := Follows.ask kind script .recommendedMaxVram
    have taken := Follows.ask kind (kind.ask .recommendedMaxVram script).state
      .currentAllocatedVram
    rw [GpuKind.query_usage_of_ne single, usageReads_of_ne script single]
    exact Follows.separateUsage budget taken

theorem device_follows :
    Follows kind (kind.deviceReads script) script ((query kind).gpu? script) := by
  have library := Follows.ask kind script .library
  have usage := usage_follows kind (kind.after script .library)
  rw [usageReads_after kind script (by decide)] at usage
  constructor
  · rw [MemoryQuery.calls_gpu?, GpuKind.query_library, library.calls, GpuKind.deviceReads,
      List.filter_append, GpuKind.ask_value, GpuKind.ask_state]
    cases kind.reply script .library with
    | none => rfl
    | some found => exact congrArg _ usage.calls
  · rw [MemoryQuery.gpu?_state, GpuKind.query_library, GpuKind.deviceReads,
      List.foldl_append, GpuKind.ask_value, GpuKind.ask_state]
    cases kind.reply script .library with
    | none => rfl
    | some found => exact usage.state

theorem physicalMemory_follows :
    Follows kind [.physicalMemory] script ((query kind).physicalMemory script) := by
  rw [MemoryQuery.physicalMemory, GpuKind.query_physical]
  exact (Follows.ask kind script .physicalMemory).orUnknown .physicalMemory

theorem freeMemory_follows :
    Follows kind [.freeMemory] script ((query kind).freeMemory script) := by
  rw [MemoryQuery.freeMemory, GpuKind.query_free]
  exact (Follows.ask kind script .freeMemory).orUnknown .freeMemory

theorem gpuState_eq :
    (query kind).gpuState script =
      kind.after (kind.after script .physicalMemory) .freeMemory := by
  rw [MemoryQuery.gpuState, (physicalMemory_follows kind script).state,
    (freeMemory_follows kind _).state]
  rfl

theorem deviceReads_after {other : Method} (notLibrary : other ≠ .library)
    (notRecommended : other ≠ .recommendedMaxVram) :
    kind.deviceReads (kind.after script other) = kind.deviceReads script := by
  rw [GpuKind.deviceReads, GpuKind.deviceReads,
    GpuKind.reply_after_of_ne script notLibrary,
    usageReads_after kind script notRecommended]

/-- The two system figures are asked for before the device, and leave its replies alone. -/
theorem deviceReads_gpuState :
    kind.deviceReads ((query kind).gpuState script) = kind.deviceReads script := by
  rw [gpuState_eq, deviceReads_after kind _ (by decide) (by decide),
    deviceReads_after kind _ (by decide) (by decide)]

theorem capture_follows :
    Follows kind (kind.captureReads script) script ((query kind).capture script) := by
  have physical := physicalMemory_follows kind script
  have free := freeMemory_follows kind ((query kind).physicalMemory script).state
  have device := device_follows kind ((query kind).gpuState script)
  rw [deviceReads_gpuState] at device
  constructor
  · rw [MemoryQuery.calls_capture, physical.calls, free.calls]
    change _ ++ Entry.calls ((query kind).gpu? ((query kind).gpuState script)).record = _
    rw [device.calls, ← List.filter_append, ← List.filter_append]
    rfl
  · rw [MemoryQuery.capture_state, device.state, gpuState_eq]
    rfl

theorem library_follows :
    Follows kind [.library] script ((query kind).library script) := by
  rw [MemoryQuery.library, GpuKind.query_library]
  exact Follows.ask kind script .library

theorem recommendedMaxVram_follows :
    Follows kind [.recommendedMaxVram] script ((query kind).recommendedMaxVram script) := by
  rw [MemoryQuery.recommendedMaxVram, GpuKind.query_recommended]
  exact (Follows.ask kind script .recommendedMaxVram).orUnknown .recommendedMaxVram

theorem currentAllocatedVram_follows :
    Follows kind [.currentAllocatedVram] script
      ((query kind).currentAllocatedVram script) := by
  rw [MemoryQuery.currentAllocatedVram, GpuKind.query_allocated]
  exact (Follows.ask kind script .currentAllocatedVram).orUnknown .currentAllocatedVram

theorem vramUsage_follows :
    Follows kind (kind.usageReads script) script ((query kind).vramUsage script) where
  calls := by rw [MemoryQuery.calls_vramUsage, (usage_follows kind script).calls]
  state := by rw [MemoryQuery.vramUsage_state, (usage_follows kind script).state]

end

/-! ## No figure twice

A combined read tells both figures of the device. -/

def Method.figures : Method → List Method
  | .library => []
  | .vramUsage => [.recommendedMaxVram, .currentAllocatedVram]
  | method => [method]

section

variable (kind : GpuKind) (script : Script)

/-- The orders in which a combined read can ask. -/
def usageOrders : List (List Method) :=
  [[.vramUsage], [.recommendedMaxVram], [.recommendedMaxVram, .currentAllocatedVram]]

/-- The orders in which a capture can ask. -/
def captureOrders : List (List Method) :=
  ([] :: usageOrders).map fun usage => [.physicalMemory, .freeMemory, .library] ++ usage

theorem usageReads_mem : kind.usageReads script ∈ usageOrders := by
  unfold GpuKind.usageReads
  cases kind with
  | single => exact .head _
  | split => cases GpuKind.split.reply script .recommendedMaxVram <;> simp [usageOrders]
  | unsupported => exact .tail _ (.head _)

private theorem captureReads_mem : kind.captureReads script ∈ captureOrders := by
  unfold GpuKind.captureReads GpuKind.deviceReads
  cases kind.reply script .library with
  | none => exact List.mem_map.mpr ⟨[], .head _, rfl⟩
  | some library =>
      exact List.mem_map.mpr ⟨_, .tail _ (usageReads_mem kind script), rfl⟩

private theorem nodup_usageReads : (kind.usageReads script).Nodup := by
  have orders : ∀ reads ∈ usageOrders, reads.Nodup := by decide
  exact orders _ (usageReads_mem kind script)

private theorem nodup_captureReads :
    (kind.captureReads script).Nodup ∧
      ((kind.captureReads script).flatMap Method.figures).Nodup := by
  have orders : ∀ reads ∈ captureOrders,
      reads.Nodup ∧ (reads.flatMap Method.figures).Nodup := by decide
  exact orders _ (captureReads_mem kind script)

theorem nodup_calls_capture :
    ((Entry.calls ((query kind).capture script).record).flatMap Method.figures).Nodup := by
  rw [(capture_follows kind script).calls]
  have kept : ((kind.captureReads script).filter kind.scripts).Sublist
      (kind.captureReads script) := List.filter_sublist
  exact (kept.flatMap Method.figures).nodup (nodup_captureReads kind script).2

variable {kind script}

theorem captureReads_of_null (null : kind.reply script .library = none) :
    kind.captureReads script = [.physicalMemory, .freeMemory, .library] := by
  rw [GpuKind.captureReads, GpuKind.deviceReads, null]
  rfl

end

/-! ## Turns of a run -/

/-- A turn is a step together with the session it finds. It asks the methods of its
step, or makes the changes of a `set`. -/
structure Turn where
  session : Session
  step : Step

def turns (kind : GpuKind) (session : Session) : List Step → List Turn
  | [] => []
  | step :: rest => ⟨session, step⟩ :: turns kind (perform kind session step).state rest

def Step.changes : Step → List Change
  | .set changes => changes
  | _ => []

namespace Turn

def outcome (kind : GpuKind) (turn : Turn) : Outcome Session (Entry Method) Answer :=
  perform kind turn.session turn.step

def reads (kind : GpuKind) (turn : Turn) : List Method :=
  turn.step.reads kind turn.session.script

def exchanges (kind : GpuKind) (turn : Turn) : List Exchange :=
  kind.hear turn.session.script (turn.reads kind)

variable (kind : GpuKind) (turn : Turn)

theorem calls_outcome :
    Entry.calls (turn.outcome kind).record = (turn.reads kind).filter kind.scripts := by
  rcases turn with ⟨session, step⟩
  cases step with
  | library => exact (library_follows kind session.script).calls
  | recommendedMaxVram => exact (recommendedMaxVram_follows kind session.script).calls
  | currentAllocatedVram => exact (currentAllocatedVram_follows kind session.script).calls
  | physicalMemory => exact (physicalMemory_follows kind session.script).calls
  | freeMemory => exact (freeMemory_follows kind session.script).calls
  | vramUsage => exact (vramUsage_follows kind session.script).calls
  | capture => exact (capture_follows kind session.script).calls
  | text => rfl
  | fits request => rfl
  | same => rfl
  | set changes => rfl

theorem script_outcome :
    (turn.outcome kind).state.script =
      turn.step.changes.foldl Change.apply
        ((turn.reads kind).foldl kind.after turn.session.script) := by
  rcases turn with ⟨session, step⟩
  cases step with
  | library => exact (library_follows kind session.script).state
  | recommendedMaxVram => exact (recommendedMaxVram_follows kind session.script).state
  | currentAllocatedVram => exact (currentAllocatedVram_follows kind session.script).state
  | physicalMemory => exact (physicalMemory_follows kind session.script).state
  | freeMemory => exact (freeMemory_follows kind session.script).state
  | vramUsage => exact (vramUsage_follows kind session.script).state
  | capture => exact (capture_follows kind session.script).state
  | text => rfl
  | fits request => rfl
  | same => rfl
  | set changes => rfl

end Turn

theorem run_eq_map_turns (kind : GpuKind) (session : Session) (steps : List Step) :
    run kind session steps = (turns kind session steps).map (Turn.outcome kind) := by
  induction steps generalizing session with
  | nil => rfl
  | cons step rest induction =>
      rw [run, turns, List.map_cons]
      exact congrArg _ (induction _)

theorem map_step_turns (kind : GpuKind) (session : Session) (steps : List Step) :
    (turns kind session steps).map Turn.step = steps := by
  induction steps generalizing session with
  | nil => rfl
  | cons step rest induction => rw [turns, List.map_cons, induction]

/-- A turn asks no method twice, so its replies are those it finds. -/
theorem Turn.nodup_reads (kind : GpuKind) (turn : Turn) : (turn.reads kind).Nodup := by
  rcases turn with ⟨session, step⟩
  cases step with
  | vramUsage => exact nodup_usageReads kind session.script
  | capture => exact (nodup_captureReads kind session.script).1
  | _ => simp [Turn.reads, Step.reads]

theorem Turn.exchanges_eq_replies (kind : GpuKind) (turn : Turn) :
    turn.exchanges kind = kind.replies turn.session.script (turn.reads kind) :=
  GpuKind.hear_eq_replies _ (turn.nodup_reads kind)

end MemoryProbe.Session
