import Mathlib.Logic.Function.Iterate
import MemoryProbe.Proofs.Session.Answers

namespace MemoryProbe.Session

open MemoryQuery (reported offered)

/-! ## The two sides of a session -/

/-- Every source method belongs to the system or to the GPU. -/
inductive Side where
  | system
  | gpu
  deriving DecidableEq, Repr

def Method.side : Method → Side
  | .physicalMemory => .system
  | .freeMemory => .system
  | _ => .gpu

def Change.side (change : Change) : Side :=
  change.target.1.side

namespace Side

/-- A step concerns a side when its answer tells of that side, and of a snapshot a side
is told its own half. -/
def concerns : Side → Step → Bool
  | _, .capture => true
  | .system, .physicalMemory => true
  | .system, .freeMemory => true
  | .gpu, .library => true
  | .gpu, .recommendedMaxVram => true
  | .gpu, .currentAllocatedVram => true
  | .gpu, .vramUsage => true
  | .gpu, .fits _ => true
  | _, _ => false

def half : Side → Answer → Answer
  | .system, .snapshot taken => .snapshot ⟨taken.system, none⟩
  | .gpu, .snapshot taken => .snapshot ⟨.unknown, taken.gpu⟩
  | _, answer => answer

/-- What a run tells of one side: the steps that concern it, each with its part of
the answer. -/
def told (side : Side) (kind : GpuKind) (session : Session) (steps : List Step) :
    List (Step × Answer) :=
  ((steps.zip ((run kind session steps).map (·.value))).filter fun answered =>
    side.concerns answered.1).map fun (step, answer) => (step, side.half answer)

/-- What one side keeps of a step: the changes to its own replies, or the step as a
whole, or nothing. -/
def keep? (side : Side) : Step → Option Step
  | .set changes =>
      match changes.filter (·.side = side) with
      | [] => none
      | kept => some (.set kept)
  | step => if side.concerns step then some step else none

end Side

/-! ## Replies drawn

Each call of a method draws one of its replies, and a change to other replies draws
none. -/

private theorem foldl_after_eq (kind : GpuKind) (methods : List Method) (script : Script) :
    methods.foldl kind.after script =
      (methods.filter kind.scripts).foldl Script.consume script :=
  List.foldl_filter.symm

private theorem standing_foldl_consume (method : Method) (calls : List Method) (script : Script) :
    (calls.foldl Script.consume script).standing method =
      Replies.advance^[calls.count method] (script.standing method) := by
  induction calls generalizing script with
  | nil => rfl
  | cons other calls induction =>
      rw [List.foldl_cons, induction]
      by_cases same : other = method
      · subst same
        rw [Script.standing_consume_self, List.count_cons_self, Function.iterate_succ_apply]
      · rw [Script.standing_consume_of_ne script same, List.count_cons_of_ne same]

private theorem Change.standing_apply_of_side {change : Change} {method : Method}
    (other : change.side ≠ method.side) (script : Script) :
    (change.apply script).standing method = script.standing method := by
  have different : change.target.1 ≠ method := fun same => other (congrArg Method.side same)
  rw [Change.standing_apply, ofMethod?_of_ne different, Option.getD_none]

theorem standing_foldl_apply {method : Method} (changes : List Change) {script script' : Script}
    (same : script.standing method = script'.standing method) :
    (changes.foldl Change.apply script).standing method =
      ((changes.filter (·.side = method.side)).foldl Change.apply script').standing method := by
  induction changes generalizing script script' with
  | nil => exact same
  | cons change changes induction =>
      rw [List.foldl_cons]
      by_cases own : change.side = method.side
      · rw [List.filter_cons_of_pos (by simpa using own), List.foldl_cons]
        apply induction
        rw [Change.standing_apply, Change.standing_apply, same]
      · rw [List.filter_cons_of_neg (by simpa using own)]
        exact induction ((Change.standing_apply_of_side own script).trans same)

/-! ## Sessions alike on one side -/

/-- Sessions are alike on a side when their replies on that side are the same, and so is
the device of their last snapshots. Sessions alike on the side of the GPU are of one
kind. -/
structure Side.Alike (side : Side) (kind kind' : GpuKind) (session session' : Session) :
    Prop where
  kinds : side = .gpu → kind = kind'
  standing : ∀ method, method.side = side →
    session.script.standing method = session'.script.standing method
  device : side = .gpu → session.last.map (·.gpu) = session'.last.map (·.gpu)

namespace Side.Alike

variable {side : Side} {kind kind' : GpuKind} {session session' : Session}

theorem reply (alike : side.Alike kind kind' session session') (method : Method)
    (own : method.side = side) :
    kind.reply session.script method = kind'.reply session'.script method := by
  have standing := alike.standing method own
  cases side with
  | system =>
      have scripted : ∀ kind : GpuKind, kind.scripts method = true := by
        cases method <;> first | contradiction | exact fun _ => rfl
      rw [GpuKind.reply, GpuKind.reply, GpuKind.standing_told_of_scripts _ (scripted kind),
        GpuKind.standing_told_of_scripts _ (scripted kind'), standing]
  | gpu =>
      cases alike.kinds rfl
      cases kind with
      | unsupported => cases method <;> first | contradiction | rfl
      | split => exact congrArg Replies.current standing
      | single => exact congrArg Replies.current standing

theorem usageReply (alike : Side.gpu.Alike kind kind' session session') :
    kind.usageReply session.script = kind'.usageReply session'.script := by
  have recommended := alike.reply .recommendedMaxVram rfl
  have allocated := alike.reply .currentAllocatedVram rfl
  have usage := alike.reply .vramUsage rfl
  cases alike.kinds rfl
  unfold GpuKind.usageReply
  rw [recommended, allocated]
  cases kind with
  | single => exact usage
  | _ => rfl

theorem deviceReply (alike : Side.gpu.Alike kind kind' session session') :
    kind.deviceReply session.script = kind'.deviceReply session'.script := by
  have library := alike.reply .library rfl
  rw [GpuKind.deviceReply, GpuKind.deviceReply, library, alike.usageReply]

theorem usageReads (alike : Side.gpu.Alike kind kind' session session') :
    kind.usageReads session.script = kind'.usageReads session'.script := by
  have recommended := alike.reply .recommendedMaxVram rfl
  cases alike.kinds rfl
  unfold GpuKind.usageReads
  rw [recommended]

theorem deviceReads (alike : Side.gpu.Alike kind kind' session session') :
    kind.deviceReads session.script = kind'.deviceReads session'.script := by
  have library := alike.reply .library rfl
  rw [GpuKind.deviceReads, GpuKind.deviceReads, library, alike.usageReads]

/-- On the side of the GPU the methods asked are the same. -/
theorem reads (alike : Side.gpu.Alike kind kind' session session') (step : Step) :
    step.reads kind session.script = step.reads kind' session'.script := by
  cases step with
  | vramUsage => exact alike.usageReads
  | capture => exact congrArg (Method.physicalMemory :: .freeMemory :: ·) alike.deviceReads
  | _ => rfl

end Side.Alike

/-! ## Calls of a step on either side

A step that does not concern a side calls none of its methods. What a capture calls of
the system does not depend on the device. -/

def Step.calls (kind : GpuKind) (script : Script) (step : Step) : List Method :=
  (step.reads kind script).filter kind.scripts

private theorem side_of_mem_deviceMethods {method : Method} (device : method ∈ deviceMethods) :
    method.side = .gpu := by
  revert method
  decide

private theorem side_of_mem_deviceReads {kind : GpuKind} {script : Script} {method : Method}
    (device : method ∈ kind.deviceReads script) : method.side = .gpu := by
  rcases List.mem_cons.mp (deviceReads_subset kind script device) with library | device
  · rw [library]
    rfl
  · exact side_of_mem_deviceMethods device

theorem Step.side_of_mem_reads {side : Side} {step : Step}
    (other : side.concerns step = false) {kind : GpuKind} {script : Script} {method : Method}
    (read : method ∈ step.reads kind script) : method.side ≠ side := by
  cases side with
  | system =>
      cases step with
      | vramUsage =>
          rw [side_of_mem_deviceMethods (usageReads_subset kind script read)]
          decide
      | library => cases List.mem_singleton.mp read; decide
      | recommendedMaxVram => cases List.mem_singleton.mp read; decide
      | currentAllocatedVram => cases List.mem_singleton.mp read; decide
      | capture => cases other
      | physicalMemory => cases other
      | freeMemory => cases other
      | _ => cases read
  | gpu =>
      cases step with
      | physicalMemory => cases List.mem_singleton.mp read; decide
      | freeMemory => cases List.mem_singleton.mp read; decide
      | text => cases read
      | same => cases read
      | set changes => cases read
      | _ => cases other

theorem Step.count_calls_eq_zero {side : Side} {step : Step}
    (other : side.concerns step = false) (kind : GpuKind) (script : Script) {method : Method}
    (own : method.side = side) : (step.calls kind script).count method = 0 := by
  apply List.count_eq_zero.mpr
  intro called
  exact Step.side_of_mem_reads other (List.mem_filter.mp called).1 own

private theorem count_calls_capture (kind : GpuKind) (script : Script) {method : Method}
    (own : method.side = .system) : (Step.capture.calls kind script).count method = 1 := by
  have device : ((kind.deviceReads script).filter kind.scripts).count method = 0 := by
    apply List.count_eq_zero.mpr
    intro called
    have other := side_of_mem_deviceReads (List.mem_filter.mp called).1
    rw [own] at other
    cases other
  have split : Step.capture.calls kind script =
      [.physicalMemory, .freeMemory] ++ (kind.deviceReads script).filter kind.scripts := rfl
  rw [split, List.count_append, device]
  cases method <;> first | contradiction | rfl

theorem Side.Alike.count_calls {side : Side} {kind kind' : GpuKind} {session session' : Session}
    (alike : side.Alike kind kind' session session') (step : Step) {method : Method}
    (own : method.side = side) :
    (step.calls kind session.script).count method =
      (step.calls kind' session'.script).count method := by
  cases side with
  | system =>
      cases concerned : Side.system.concerns step with
      | false =>
          rw [step.count_calls_eq_zero concerned kind _ own,
            step.count_calls_eq_zero concerned kind' _ own]
      | true =>
          cases step with
          | physicalMemory => rfl
          | freeMemory => rfl
          | capture => rw [count_calls_capture kind _ own, count_calls_capture kind' _ own]
          | _ => cases concerned
  | gpu =>
      have reads := alike.reads step
      cases alike.kinds rfl
      rw [Step.calls, Step.calls, reads]

/-! ## One step

The replies that a step leaves behind, and what each side is told by it. -/

theorem standing_perform (kind : GpuKind) (session : Session) (step : Step) (method : Method) :
    (perform kind session step).state.script.standing method =
      (step.changes.foldl Change.apply
        ((step.calls kind session.script).foldl Script.consume session.script)).standing
          method := by
  rw [Step.calls, ← foldl_after_eq]
  exact congrArg (fun script => Script.standing script method)
    (Turn.script_outcome kind ⟨session, step⟩)

namespace Side

/-- A side keeps a step whole, or only changes of its own, or nothing. -/
theorem keep?_cases (side : Side) (step : Step) :
    (side.concerns step = true ∧ side.keep? step = some step ∧ step.changes = []) ∨
      (∃ changes, step = .set changes ∧
        side.keep? step = some (.set (changes.filter (·.side = side)))) ∨
      (side.concerns step = false ∧ side.keep? step = none ∧
        step.changes.filter (·.side = side) = []) := by
  cases step with
  | set changes =>
      cases kept : changes.filter (·.side = side) with
      | nil =>
          refine .inr (.inr ⟨by cases side <;> rfl, ?_, kept⟩)
          rw [keep?, kept]
      | cons change rest =>
          refine .inr (.inl ⟨changes, rfl, ?_⟩)
          rw [keep?, kept]
  | _ => cases side <;> first | exact .inl ⟨rfl, rfl, rfl⟩ | exact .inr (.inr ⟨rfl, rfl, rfl⟩)

namespace Alike

variable {side : Side} {kind kind' : GpuKind} {session session' : Session}

theorem after (alike : side.Alike kind kind' session session') (step step' : Step)
    (calls : ∀ method, method.side = side → (step.calls kind session.script).count method =
      (step'.calls kind' session'.script).count method)
    (changes : step.changes.filter (·.side = side) = step'.changes)
    (device : side = .gpu → (perform kind session step).state.last.map (·.gpu) =
      (perform kind' session' step').state.last.map (·.gpu)) :
    side.Alike kind kind' (perform kind session step).state
      (perform kind' session' step').state where
  kinds := alike.kinds
  standing := by
    intro method own
    rw [standing_perform, standing_perform, ← changes, ← own]
    apply standing_foldl_apply
    rw [standing_foldl_consume, standing_foldl_consume, calls method own,
      alike.standing method own]
  device := device

private theorem half_value_system (alike : Side.system.Alike kind kind' session session')
    {step : Step} (concerned : Side.system.concerns step = true) :
    Side.system.half (perform kind session step).value =
      Side.system.half (perform kind' session' step).value := by
  have physical := alike.reply .physicalMemory rfl
  have free := alike.reply .freeMemory rfl
  cases step with
  | physicalMemory =>
      change Answer.figure ((query kind).physicalMemory session.script).value =
        .figure ((query kind').physicalMemory session'.script).value
      rw [physicalMemory_value, physicalMemory_value, physical]
  | freeMemory =>
      change Answer.figure ((query kind).freeMemory session.script).value =
        .figure ((query kind').freeMemory session'.script).value
      rw [freeMemory_value, freeMemory_value, free]
  | capture =>
      change Answer.snapshot ⟨((query kind).capture session.script).value.system, none⟩ =
        .snapshot ⟨((query kind').capture session'.script).value.system, none⟩
      rw [capture_value, capture_value, physical, free]
  | _ => cases concerned

private theorem half_value_gpu (alike : Side.gpu.Alike kind kind' session session') {step : Step}
    (concerned : Side.gpu.concerns step = true) :
    Side.gpu.half (perform kind session step).value =
      Side.gpu.half (perform kind' session' step).value := by
  cases step with
  | library =>
      change Answer.library ((query kind).library session.script).value =
        .library ((query kind').library session'.script).value
      rw [library_value, library_value, alike.reply .library rfl]
  | recommendedMaxVram =>
      change Answer.figure ((query kind).recommendedMaxVram session.script).value =
        .figure ((query kind').recommendedMaxVram session'.script).value
      rw [recommendedMaxVram_value, recommendedMaxVram_value,
        alike.reply .recommendedMaxVram rfl]
  | currentAllocatedVram =>
      change Answer.figure ((query kind).currentAllocatedVram session.script).value =
        .figure ((query kind').currentAllocatedVram session'.script).value
      rw [currentAllocatedVram_value, currentAllocatedVram_value,
        alike.reply .currentAllocatedVram rfl]
  | vramUsage =>
      change Answer.usage ((query kind).vramUsage session.script).value =
        .usage ((query kind').vramUsage session'.script).value
      rw [MemoryQuery.vramUsage_eq_offered, MemoryQuery.vramUsage_eq_offered, usage_value,
        usage_value, alike.usageReply]
  | capture =>
      change Answer.snapshot ⟨_, ((query kind).capture session.script).value.gpu⟩ =
        .snapshot ⟨_, ((query kind').capture session'.script).value.gpu⟩
      rw [capture_value, capture_value, alike.deviceReply]
  | fits request =>
      have device := congrArg (Option.map fun gpu : Option GpuInfo =>
        gpu.any (·.fits request)) (alike.device rfl)
      rw [Option.map_map, Option.map_map] at device
      exact congrArg Answer.fits device
  | _ => cases concerned

/-- A step that both sessions take tells the side the same in both. -/
theorem half_value (alike : side.Alike kind kind' session session') {step : Step}
    (concerned : side.concerns step = true) :
    side.half (perform kind session step).value =
      side.half (perform kind' session' step).value := by
  cases side with
  | system => exact alike.half_value_system concerned
  | gpu => exact alike.half_value_gpu concerned

/-- Only captures take a snapshot. -/
theorem last_perform {step : Step} (other : side.concerns step = false) :
    (perform kind session step).state.last = session.last := by
  cases step with
  | capture => cases side <;> cases other
  | _ => rfl

theorem device_perform (alike : Side.gpu.Alike kind kind' session session') (step : Step) :
    (perform kind session step).state.last.map (·.gpu) =
      (perform kind' session' step).state.last.map (·.gpu) := by
  cases step with
  | capture =>
      change some ((query kind).capture session.script).value.gpu =
        some ((query kind').capture session'.script).value.gpu
      rw [capture_value, capture_value, alike.deviceReply]
  | _ => exact alike.device rfl

end Alike

/-! ## Runs

Leaving out of a run what does not concern a side changes nothing of what that side is
told. -/

theorem told_cons (side : Side) (kind : GpuKind) (session : Session) (step : Step)
    (rest : List Step) :
    side.told kind session (step :: rest) =
      (if side.concerns step then [(step, side.half (perform kind session step).value)]
        else []) ++ side.told kind (perform kind session step).state rest := by
  unfold told
  rw [run, List.map_cons, List.zip_cons_cons]
  rw [List.filter_cons]
  cases side.concerns step <;> rfl

theorem Alike.told_filterMap {side : Side} {kind kind' : GpuKind} {session session' : Session}
    (alike : side.Alike kind kind' session session') (steps : List Step) :
    side.told kind session steps =
      side.told kind' session' (steps.filterMap side.keep?) := by
  induction steps generalizing session session' with
  | nil => rfl
  | cons step rest induction =>
      rcases side.keep?_cases step with ⟨concerned, kept, changes⟩ |
        ⟨changes, rfl, kept⟩ | ⟨other, kept, changes⟩
      · have later := alike.after step step
          (fun method own => alike.count_calls step own) (by rw [changes]; rfl)
          (fun gpu => by subst gpu; exact alike.device_perform step)
        rw [List.filterMap_cons_some kept, told_cons, told_cons, alike.half_value concerned,
          induction later]
      · have later := alike.after (.set changes)
          (.set (changes.filter (·.side = side))) (fun _ _ => rfl) rfl alike.device
        rw [List.filterMap_cons_some kept, told_cons, told_cons, induction later]
        cases side <;> rfl
      · have later : side.Alike kind kind' (perform kind session step).state session' :=
          alike.after step (.set [])
            (fun method own => step.count_calls_eq_zero other kind _ own) changes
            (fun gpu => by rw [last_perform other]; exact alike.device gpu)
        rw [List.filterMap_cons_none kept, told_cons, other, induction later]
        rfl

end Side

/-- Two runs that are the same as far as one side is concerned tell it the same. The
system figures, and the system half of every snapshot, depend on the system's replies,
the changes made to them and the steps that ask for them; whatever the GPU answers and
whatever happens to it, not one reply more is drawn. The same holds of the GPU, whose
side also tells which requests fit. -/
theorem sides_isolated (side : Side) (kind kind' : GpuKind) (script script' : Script)
    (steps steps' : List Step) (kinds : side = .gpu → kind = kind')
    (replies : ∀ method, method.side = side →
      script.standing method = script'.standing method)
    (kept : steps.filterMap side.keep? = steps'.filterMap side.keep?) :
    side.told kind (start script) steps = side.told kind' (start script') steps' := by
  have alike : side.Alike kind kind' (start script) (start script') :=
    ⟨kinds, replies, fun _ => rfl⟩
  have reflexive : side.Alike kind' kind' (start script') (start script') :=
    ⟨fun _ => rfl, fun _ _ => rfl, fun _ => rfl⟩
  rw [alike.told_filterMap, kept, ← reflexive.told_filterMap]

/-- A device whose budget shrinks, on a machine whose total is told once and then lost. -/
def shrinkingDevice : Script where
  library := .fixed (some .nvml)
  recommended := ⟨.ok 0x40000000, [.ok 0x30000000, .error .noDevice]⟩
  allocated := .fixed (.ok 0x1000)
  usage := .fixed (.error .noDevice)
  physical := ⟨.ok 0x80000000, [.error .systemUnavailable]⟩
  free := .fixed (.ok 0x20000000)

def withoutDevice : Script :=
  { shrinkingDevice with library := .fixed none, recommended := .fixed (.error .noDevice) }

def withoutSystem : Script :=
  { shrinkingDevice with
    physical := .fixed (.error .systemUnavailable)
    free := ⟨.error .systemUnavailable, [.ok 1]⟩ }

def restored : Replies (Except QueryError ByteCount) := ⟨.ok 0x10000000, [.ok 0x8000000]⟩

/-- The device is lost in one run only, and then the system in one run only. -/
theorem sides_isolated_shrinking_device :
    Side.system.told .split (start shrinkingDevice)
        [.vramUsage, .capture, .set [.free restored, .library (.fixed none)], .capture,
          .freeMemory, .physicalMemory] =
      Side.system.told .unsupported (start withoutDevice)
        [.vramUsage, .capture, .set [.free restored], .capture, .freeMemory,
          .physicalMemory] ∧
    Side.gpu.told .split (start shrinkingDevice)
        [.capture, .fits 0x1000, .set [.free restored], .recommendedMaxVram, .capture,
          .fits 0x1000] =
      Side.gpu.told .split (start withoutSystem)
        [.capture, .fits 0x1000, .recommendedMaxVram, .capture, .fits 0x1000] := by
  constructor
  · apply sides_isolated
    · intro gpu
      cases gpu
    · intro method own
      cases method <;> first | contradiction | rfl
    · rfl
  · apply sides_isolated
    · exact fun _ => rfl
    · intro method own
      cases method <;> first | contradiction | rfl
    · rfl

end MemoryProbe.Session
