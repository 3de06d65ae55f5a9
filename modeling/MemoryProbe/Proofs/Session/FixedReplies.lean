import MemoryProbe.Proofs.Session.CombinedRead
import MemoryProbe.Proofs.Session.Answers

namespace MemoryProbe.Session

open MemoryQuery (reported offered)

/-! ## The queries of one script -/

/-- What every query answers on a script, side by side. -/
structure Account where
  library : Option Library
  recommended : ByteCount
  allocated : ByteCount
  physical : ByteCount
  free : ByteCount
  usage : Option VramUsage
  snapshot : Snapshot

def GpuKind.account (kind : GpuKind) (script : Script) : Account where
  library := ((query kind).library script).value
  recommended := ((query kind).recommendedMaxVram script).value
  allocated := ((query kind).currentAllocatedVram script).value
  physical := ((query kind).physicalMemory script).value
  free := ((query kind).freeMemory script).value
  usage := ((query kind).vramUsage script).value
  snapshot := ((query kind).capture script).value

/-- The answer to a step that asks a query or takes a snapshot. -/
def Account.answer? (account : Account) : Step → Option Answer
  | .library => some (.library account.library)
  | .recommendedMaxVram => some (.figure account.recommended)
  | .currentAllocatedVram => some (.figure account.allocated)
  | .physicalMemory => some (.figure account.physical)
  | .freeMemory => some (.figure account.free)
  | .vramUsage => some (.usage account.usage)
  | .capture => some (.snapshot account.snapshot)
  | _ => none

/-- Two sessions over the same script answer alike, whatever snapshots they have taken. -/
theorem value_perform_of_answer? {kind : GpuKind} {session : Session} {step : Step}
    {answer : Answer}
    (asked : (kind.account session.script).answer? step = some answer) :
    (perform kind session step).value = answer := by
  cases step <;> cases asked <;> rfl

/-! ## Accounts that agree -/

structure Account.Describes (account : Account) (gpu : GpuInfo) : Prop where
  library : account.library = some gpu.library
  id : gpu.id = "0"
  total : gpu.total = account.recommended
  free : gpu.free.toNat = account.recommended.toNat - account.allocated.toNat
  minimum : gpu.minimum = gpu.library.minimumMemory

/-- A source of single reads tells nothing in its combined read and in its snapshots
that the single queries do not tell. -/
structure Account.Agrees (account : Account) : Prop where
  system : account.snapshot.system = ⟨account.physical, account.free⟩
  usage_isSome_iff : account.usage.isSome ↔ account.recommended ≠ 0
  usage_eq : ∀ usage, account.usage = some usage →
    usage = ⟨account.recommended, account.allocated⟩
  gpu_isSome_iff : account.snapshot.gpu.isSome ↔
    ∃ library, account.library = some library ∧
      library.minimumMemory ≤ account.recommended
  gpu : ∀ gpu, account.snapshot.gpu = some gpu →
    account.Describes gpu ∧ gpu.free ≤ gpu.total ∧ gpu.minimum ≤ gpu.total

/-- A budget that cannot be read counts as zero, and a budget of zero is none. -/
theorem offered_combined (recommended allocated : Except QueryError ByteCount) :
    offered (GpuSource.combined recommended allocated) =
      if 0 < reported recommended then some ⟨reported recommended, reported allocated⟩
      else none := by
  cases recommended <;> rfl

section

variable {kind : GpuKind} (separate : kind ≠ .single) (script : Script)
include separate

private theorem account_usage :
    (kind.account script).usage =
      if 0 < (kind.account script).recommended then
        some ⟨(kind.account script).recommended, (kind.account script).allocated⟩
      else none := by
  simp only [GpuKind.account, MemoryQuery.vramUsage_eq_offered, usage_value,
    usageReply_of_ne script separate, offered_combined, recommendedMaxVram_value,
    currentAllocatedVram_value]

private theorem account_gpu :
    (kind.account script).snapshot.gpu =
      (kind.account script).library.bind fun library =>
        library.device
          ⟨(kind.account script).recommended, (kind.account script).allocated⟩ := by
  have device (library : Library) :
      (kind.usageReply script).toOption.bind library.device =
        library.device
          ⟨(kind.account script).recommended, (kind.account script).allocated⟩ := by
    rw [← MemoryQuery.offered_bind_device, ← usage_value,
      ← MemoryQuery.vramUsage_eq_offered]
    change (kind.account script).usage.bind library.device = _
    rw [account_usage separate]
    by_cases positive : 0 < (kind.account script).recommended
    · rw [if_pos positive, Option.bind_some]
    · rw [if_neg positive, Option.bind_none]
      exact (library.device_eq_none_of_zero _ positive).symm
  have captured : (kind.account script).snapshot.gpu = kind.deviceReply script :=
    congrArg Snapshot.gpu (capture_value kind script)
  have library : (kind.account script).library = kind.reply script .library :=
    library_value kind script
  rw [captured, GpuKind.deviceReply, library]
  simp only [device]

private theorem account_gpu_isSome_iff :
    (kind.account script).snapshot.gpu.isSome ↔
      ∃ library, (kind.account script).library = some library ∧
        library.minimumMemory ≤ (kind.account script).recommended := by
  rw [account_gpu separate]
  cases (kind.account script).library with
  | none => simp
  | some library =>
      rw [Option.bind_some, ← Option.ne_none_iff_isSome, Ne, Library.device_eq_none_iff,
        UInt64.not_lt]
      constructor
      · exact fun reached => ⟨library, rfl, reached⟩
      · rintro ⟨other, same, reached⟩
        rwa [Option.some.inj same]

private theorem account_describes {gpu : GpuInfo}
    (present : (kind.account script).snapshot.gpu = some gpu) :
    (kind.account script).Describes gpu ∧ gpu.free ≤ gpu.total ∧
      gpu.minimum ≤ gpu.total := by
  rw [account_gpu separate] at present
  rcases Option.bind_eq_some_iff.mp present with ⟨library, told, found⟩
  rcases Library.of_device_eq_some found with ⟨rfl, reached⟩
  refine ⟨⟨told, rfl, rfl, ByteCount.toNat_minus _ _, rfl⟩, ?_, reached⟩
  rw [UInt64.le_iff_toNat_le, ByteCount.toNat_minus]
  exact Nat.sub_le _ _

theorem account_agrees : (kind.account script).Agrees where
  system := by
    simp only [GpuKind.account, capture_value, physicalMemory_value, freeMemory_value]
  usage_isSome_iff := by
    rw [account_usage separate, ← UInt64.pos_iff_ne_zero]
    by_cases positive : 0 < (kind.account script).recommended <;> simp [positive]
  usage_eq := by
    intro usage found
    rw [account_usage separate] at found
    exact (Option.some.inj (Option.ite_none_right_eq_some.mp found).2).symm
  gpu_isSome_iff := account_gpu_isSome_iff separate script
  gpu := fun _ => account_describes separate script

end

/-! ## Fixed replies -/

/-- A reply is fixed when none stands after it. Asking for it moves nothing on, so only
a `set` changes a script of fixed replies. -/
def Script.Fixed (script : Script) : Prop :=
  ∀ method, (script.standing method).later = []

def Step.Fixed (step : Step) : Prop :=
  ∀ change ∈ step.changes, change.target.2.later = []

private theorem Script.eq_of_standing {script other : Script}
    (same : ∀ method, script.standing method = other.standing method) : script = other := by
  rcases script with ⟨library, recommended, allocated, usage, physical, free⟩
  rcases other with ⟨library', recommended', allocated', usage', physical', free'⟩
  obtain rfl : library = library' := same .library
  obtain rfl : recommended = recommended' := same .recommendedMaxVram
  obtain rfl : allocated = allocated' := same .currentAllocatedVram
  obtain rfl : usage = usage' := same .vramUsage
  obtain rfl : physical = physical' := same .physicalMemory
  obtain rfl : free = free' := same .freeMemory
  rfl

namespace Script.Fixed

variable {script : Script} {kind : GpuKind}

private theorem consume (fixed : script.Fixed) (asked : Method) :
    script.consume asked = script := by
  apply Script.eq_of_standing
  intro method
  by_cases same : asked = method
  · subst same
    rw [standing_consume_self, Replies.advance_of_fixed (fixed asked)]
  · exact script.standing_consume_of_ne same

theorem foldl_after (fixed : script.Fixed) (methods : List Method) :
    methods.foldl kind.after script = script := by
  induction methods with
  | nil => rfl
  | cons method rest induction =>
      have stays : kind.after script method = script := by
        rw [GpuKind.after, fixed.consume method, ite_self]
      rw [List.foldl_cons, stays, induction]

theorem foldl_apply (fixed : script.Fixed) {changes : List Change}
    (fixedChanges : ∀ change ∈ changes, change.target.2.later = []) :
    (changes.foldl Change.apply script).Fixed := by
  induction changes generalizing script with
  | nil => exact fixed
  | cons change rest induction =>
      rcases List.forall_mem_cons.mp fixedChanges with ⟨fixedFirst, fixedRest⟩
      refine induction ?_ fixedRest
      intro method
      rw [Change.standing_apply]
      by_cases same : change.target.1 = method
      · subst same
        rw [ofMethod?_self]
        exact fixedFirst
      · rw [ofMethod?_of_ne same]
        exact fixed method

end Script.Fixed

/-! ## One turn, and a run

A turn leaves the script as its changes make it. Turns that set nothing all find the
script that the first of them finds. -/

variable {kind : GpuKind}

theorem Turn.script_of_fixed {turn : Turn} (fixed : turn.session.script.Fixed) :
    (turn.outcome kind).state.script =
      turn.step.changes.foldl Change.apply turn.session.script := by
  rw [Turn.script_outcome, fixed.foldl_after]

private theorem Step.changes_of_not_sets {step : Step} (reads : ¬step.Sets) :
    step.changes = [] := by
  cases step with
  | set changes => exact absurd trivial reads
  | _ => rfl

theorem script_eq_of_turns {session : Session} {steps : List Step}
    (fixed : session.script.Fixed) {stretch later : List Turn}
    (taken : turns kind session steps = stretch ++ later)
    (reads : ∀ turn ∈ stretch, ¬turn.step.Sets) :
    ∀ turn ∈ stretch, turn.session.script = session.script := by
  induction stretch generalizing session steps with
  | nil => simp
  | cons first stretch induction =>
      cases steps with
      | nil => cases taken
      | cons step rest =>
          rcases List.cons.inj taken with ⟨rfl, takenRest⟩
          rcases List.forall_mem_cons.mp reads with ⟨readsFirst, readsRest⟩
          have stays : ((Turn.mk session step).outcome kind).state.script =
              session.script := by
            rw [Turn.script_of_fixed fixed, Step.changes_of_not_sets readsFirst]
            rfl
          refine List.forall_mem_cons.mpr ⟨rfl, fun turn member => ?_⟩
          rw [induction (stays ▸ fixed) takenRest readsRest turn member]
          exact stays

/-- What remains of a run after its first turns is a run again, and the replies are still
fixed when it begins. -/
theorem exists_turns_of_append {session : Session} {steps : List Step}
    {earlier rest : List Turn} (fixed : session.script.Fixed)
    (fixedSteps : ∀ step ∈ steps, step.Fixed)
    (taken : turns kind session steps = earlier ++ rest) :
    ∃ reached left, reached.script.Fixed ∧ turns kind reached left = rest := by
  induction earlier generalizing session steps with
  | nil => exact ⟨session, steps, fixed, taken⟩
  | cons first earlier induction =>
      cases steps with
      | nil => cases taken
      | cons step steps =>
          rcases List.forall_mem_cons.mp fixedSteps with ⟨fixedFirst, fixedRest⟩
          have next : ((Turn.mk session step).outcome kind).state.script.Fixed := by
            rw [Turn.script_of_fixed fixed]
            exact fixed.foldl_apply fixedFirst
          exact induction next fixedRest (List.cons.inj taken).2

/-- Over fixed replies one account holds for as long as nothing is set: at every turn of
such a stretch every query and every capture would answer as it says, whatever was asked
before. In it the capture and the combined read tell exactly what the single queries
tell: the system's two figures; a usage when the budget is not zero; and a device when
there is a library whose minimum the budget reaches. -/
theorem capture_agrees_with_queries (script : Script) (steps : List Step)
    (fixed : script.Fixed) (fixedSteps : ∀ step ∈ steps, step.Fixed) :
    (turns .split (start script) steps).map Turn.step = steps ∧
      run .split (start script) steps =
        (turns .split (start script) steps).map (Turn.outcome .split) ∧
      ∀ earlier stretch later,
        turns .split (start script) steps = earlier ++ (stretch ++ later) →
          (∀ turn ∈ stretch, ¬turn.step.Sets) →
            ∃ account : Account, account.Agrees ∧
              ∀ turn ∈ stretch, ∀ step answer, account.answer? step = some answer →
                (perform .split turn.session step).value = answer := by
  refine ⟨map_step_turns .split _ steps, run_eq_map_turns .split _ steps, ?_⟩
  intro earlier stretch later taken reads
  have fixedStart : (start script).script.Fixed := fixed
  rcases exists_turns_of_append fixedStart fixedSteps taken with
    ⟨reached, left, fixedReached, remaining⟩
  refine ⟨GpuKind.split.account reached.script, account_agrees (by decide) _, ?_⟩
  intro turn member step answer asked
  apply value_perform_of_answer?
  rwa [script_eq_of_turns fixedReached remaining reads turn member]

/-- A device whose budget shrinks to the least that NVML needs, with more allocated than
that; the system's free figure is not known. -/
def overallocated : Script where
  library := .fixed (some .nvml)
  recommended := .fixed (.ok 0x40000000)
  allocated := .fixed (.ok 0x20000000)
  usage := .fixed (.error .noDevice)
  physical := .fixed (.ok 0x80000000)
  free := .fixed (.error .systemUnavailable)

def shrinkingBudget : List Step :=
  [.capture, .set [.recommended (.fixed (.ok 0x1C900000))], .recommendedMaxVram, .capture,
    .text, .vramUsage, .capture]

/-- All that is asked after the budget has shrunk is answered by one account. -/
theorem capture_agrees_with_queries_shrinking_budget :
    overallocated.Fixed ∧ (∀ step ∈ shrinkingBudget, step.Fixed) ∧
      ∃ account : Account, account.Agrees ∧
        account.recommended = 0x1C900000 ∧
        ∀ turn ∈ (turns .split (start overallocated) shrinkingBudget).drop 2,
          ∀ step answer, account.answer? step = some answer →
            (perform .split turn.session step).value = answer := by
  have fixed : overallocated.Fixed := by
    intro method
    cases method <;> rfl
  have fixedSteps : ∀ step ∈ shrinkingBudget, step.Fixed := by
    intro step member
    simp only [shrinkingBudget, List.mem_cons, List.not_mem_nil, or_false] at member
    rcases member with rfl | rfl | rfl | rfl | rfl | rfl | rfl <;>
      first | exact List.forall_mem_nil _ | exact List.forall_mem_singleton.mpr rfl
  have reads : ∀ turn ∈ (turns .split (start overallocated) shrinkingBudget).drop 2,
      ¬turn.step.Sets := by
    intro turn member sets
    have asked := List.mem_map_of_mem (f := Turn.step) member
    rw [List.map_drop, map_step_turns] at asked
    simp only [shrinkingBudget, List.drop_succ_cons, List.drop_zero, List.mem_cons,
      List.not_mem_nil, or_false] at asked
    rcases asked with same | same | same | same | same <;> rw [same] at sets <;> exact sets
  rcases (capture_agrees_with_queries overallocated shrinkingBudget fixed fixedSteps).2.2
    ((turns .split (start overallocated) shrinkingBudget).take 2)
    ((turns .split (start overallocated) shrinkingBudget).drop 2) []
    (by rw [List.append_nil, List.take_append_drop]) reads with ⟨account, agrees, answers⟩
  refine ⟨fixed, fixedSteps, account, agrees, ?_, answers⟩
  have told := answers _ (List.mem_cons_self) .recommendedMaxVram _ rfl
  exact (Answer.figure.inj told).symm

end MemoryProbe.Session
