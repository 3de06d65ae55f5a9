import MemoryProbe.Proofs.Session.Reads

namespace MemoryProbe.Session

open MemoryQuery (reported offered)

/-! ## Answers from replies

What a step answers, given what it was told. A combined read without a budget has no
usage, and an allocation that is not known counts as zero. -/

inductive UsageTold : List Exchange → Except QueryError VramUsage → Prop
  | whole (reply : Except QueryError VramUsage) : UsageTold [⟨.vramUsage, reply⟩] reply
  | withoutBudget (error : QueryError) :
      UsageTold [⟨.recommendedMaxVram, .error error⟩] (.error error)
  | separate (budget : ByteCount) (reply : Except QueryError ByteCount) :
      UsageTold [⟨.recommendedMaxVram, .ok budget⟩, ⟨.currentAllocatedVram, reply⟩]
        (.ok ⟨budget, reported reply⟩)

inductive DeviceTold : List Exchange → Option GpuInfo → Prop
  | absent : DeviceTold [⟨.library, none⟩] none
  | found (library : Library) {told : List Exchange} {read : Except QueryError VramUsage}
      (usage : UsageTold told read) :
      DeviceTold (⟨.library, some library⟩ :: told) (read.toOption.bind library.device)

inductive Answered : Step → List Exchange → Answer → Prop
  | library (reply : Option Library) :
      Answered .library [⟨.library, reply⟩] (.library reply)
  | recommendedMaxVram (reply : Except QueryError ByteCount) :
      Answered .recommendedMaxVram [⟨.recommendedMaxVram, reply⟩] (.figure (reported reply))
  | currentAllocatedVram (reply : Except QueryError ByteCount) :
      Answered .currentAllocatedVram [⟨.currentAllocatedVram, reply⟩]
        (.figure (reported reply))
  | physicalMemory (reply : Except QueryError ByteCount) :
      Answered .physicalMemory [⟨.physicalMemory, reply⟩] (.figure (reported reply))
  | freeMemory (reply : Except QueryError ByteCount) :
      Answered .freeMemory [⟨.freeMemory, reply⟩] (.figure (reported reply))
  | vramUsage {told : List Exchange} {read : Except QueryError VramUsage}
      (usage : UsageTold told read) : Answered .vramUsage told (.usage (offered read))
  | capture (total free : Except QueryError ByteCount) {told : List Exchange}
      {gpu : Option GpuInfo} (device : DeviceTold told gpu) :
      Answered .capture (⟨.physicalMemory, total⟩ :: ⟨.freeMemory, free⟩ :: told)
        (.snapshot ⟨⟨reported total, reported free⟩, gpu⟩)
  | text (shown : Option String) : Answered .text [] (.text shown)
  | fits (request : ByteCount) (admitted : Option Bool) :
      Answered (.fits request) [] (.fits admitted)
  | same (equal : Bool) : Answered .same [] (.same equal)
  | set (changes : List Change) : Answered (.set changes) [] .done

theorem Answered.capture_of_snapshot {step : Step} {told : List Exchange} {taken : Snapshot}
    (answered : Answered step told (.snapshot taken)) : step = .capture := by
  cases answered
  rfl

/-! ## The usage and the device of a script

The figures of the device do not depend on system figures read before them. -/

namespace GpuKind

def usageReply (kind : GpuKind) (script : Script) : Except QueryError VramUsage :=
  match kind with
  | .single => kind.reply script .vramUsage
  | _ => GpuSource.combined (kind.reply script .recommendedMaxVram)
      (kind.reply script .currentAllocatedVram)

def deviceReply (kind : GpuKind) (script : Script) : Option GpuInfo :=
  (kind.reply script .library).bind fun library =>
    (kind.usageReply script).toOption.bind library.device

end GpuKind

/-- A method tells of the device's memory when it is one of these. -/
def deviceMethods : List Method :=
  [.recommendedMaxVram, .currentAllocatedVram, .vramUsage]

section

variable (kind : GpuKind) (script : Script)

theorem usageReply_of_ne {kind : GpuKind} (separate : kind ≠ .single) :
    kind.usageReply script =
      GpuSource.combined (kind.reply script .recommendedMaxVram)
        (kind.reply script .currentAllocatedVram) := by
  cases kind <;> first | rfl | contradiction

theorem usage_value : ((query kind).gpu.usage script).value = kind.usageReply script := by
  by_cases single : kind = .single
  · subst single
    rfl
  · rw [GpuKind.query_usage_of_ne single, GpuSource.separateUsage_value,
      usageReply_of_ne script single]
    simp only [GpuKind.ask_value, GpuKind.ask_state]
    rw [GpuKind.reply_after_of_ne script (by decide)]

theorem usageReply_after {other : Method} (system : other ∉ deviceMethods) :
    kind.usageReply (kind.after script other) = kind.usageReply script := by
  simp only [deviceMethods, List.mem_cons, List.not_mem_nil, or_false, not_or] at system
  rcases system with ⟨notRecommended, notAllocated, notUsage⟩
  cases kind <;>
    simp only [GpuKind.usageReply, GpuKind.reply_after_of_ne script notRecommended,
      GpuKind.reply_after_of_ne script notAllocated,
      GpuKind.reply_after_of_ne script notUsage]

private theorem deviceReply_after {other : Method}
    (system : other ∉ Method.library :: deviceMethods) :
    kind.deviceReply (kind.after script other) = kind.deviceReply script := by
  rcases not_or.mp (mt List.mem_cons.mpr system) with ⟨notLibrary, notDevice⟩
  rw [GpuKind.deviceReply, GpuKind.deviceReply, usageReply_after kind script notDevice,
    GpuKind.reply_after_of_ne script notLibrary]

theorem usageReads_subset : kind.usageReads script ⊆ deviceMethods := by
  have orders : ∀ reads ∈ usageOrders, reads ⊆ deviceMethods := by decide
  exact orders _ (usageReads_mem kind script)

theorem replies_usageReads_after {other : Method} (system : other ∉ deviceMethods) :
    kind.replies (kind.after script other) (kind.usageReads (kind.after script other)) =
      kind.replies script (kind.usageReads script) := by
  have notRecommended : other ≠ .recommendedMaxVram := fun same =>
    system (same ▸ List.mem_cons_self)
  have fresh : other ∉ kind.usageReads script := fun member =>
    system (usageReads_subset kind script member)
  rw [usageReads_after kind script notRecommended, GpuKind.replies_after script fresh]

theorem replies_deviceReads_none (told : kind.reply script .library = none) :
    kind.replies script (kind.deviceReads script) = [⟨.library, none⟩] := by
  simp only [GpuKind.deviceReads, GpuKind.replies, told, List.append_nil, List.map_cons,
    List.map_nil]

theorem replies_deviceReads_some {library : Library}
    (told : kind.reply script .library = some library) :
    kind.replies script (kind.deviceReads script) =
      ⟨.library, some library⟩ :: kind.replies script (kind.usageReads script) := by
  simp only [GpuKind.deviceReads, GpuKind.replies, told, List.map_append, List.map_cons,
    List.map_nil]
  rfl

theorem deviceReads_subset :
    kind.deviceReads script ⊆ Method.library :: deviceMethods := by
  unfold GpuKind.deviceReads
  cases kind.reply script .library with
  | none => exact List.cons_subset_cons _ (List.nil_subset _)
  | some library => exact List.cons_subset_cons _ (usageReads_subset kind script)

private theorem replies_deviceReads_after {other : Method}
    (system : other ∉ Method.library :: deviceMethods) :
    kind.replies (kind.after script other) (kind.deviceReads (kind.after script other)) =
      kind.replies script (kind.deviceReads script) := by
  have notLibrary : other ≠ .library := fun same => system (same ▸ List.mem_cons_self)
  have notRecommended : other ≠ .recommendedMaxVram := fun same =>
    system (same ▸ List.mem_cons_of_mem _ List.mem_cons_self)
  have fresh : other ∉ kind.deviceReads script := fun member =>
    system (deviceReads_subset kind script member)
  rw [deviceReads_after kind script notLibrary notRecommended,
    GpuKind.replies_after script fresh]

theorem replies_deviceReads_gpuState :
    kind.replies ((query kind).gpuState script)
        (kind.deviceReads ((query kind).gpuState script)) =
      kind.replies script (kind.deviceReads script) := by
  rw [gpuState_eq, replies_deviceReads_after kind _ (by decide),
    replies_deviceReads_after kind _ (by decide)]

/-! ## The answers of queries -/

theorem physicalMemory_value :
    ((query kind).physicalMemory script).value =
      reported (kind.reply script .physicalMemory) := by
  rw [MemoryQuery.physicalMemory, GpuKind.query_physical]
  exact MemoryQuery.orUnknown_value _ _ _

theorem freeMemory_value :
    ((query kind).freeMemory script).value = reported (kind.reply script .freeMemory) := by
  rw [MemoryQuery.freeMemory, GpuKind.query_free]
  exact MemoryQuery.orUnknown_value _ _ _

theorem recommendedMaxVram_value :
    ((query kind).recommendedMaxVram script).value =
      reported (kind.reply script .recommendedMaxVram) := by
  rw [MemoryQuery.recommendedMaxVram, GpuKind.query_recommended]
  exact MemoryQuery.orUnknown_value _ _ _

theorem currentAllocatedVram_value :
    ((query kind).currentAllocatedVram script).value =
      reported (kind.reply script .currentAllocatedVram) := by
  rw [MemoryQuery.currentAllocatedVram, GpuKind.query_allocated]
  exact MemoryQuery.orUnknown_value _ _ _

theorem library_value :
    ((query kind).library script).value = kind.reply script .library := by
  rw [MemoryQuery.library, GpuKind.query_library]
  rfl

theorem usageTold :
    UsageTold (kind.replies script (kind.usageReads script)) (kind.usageReply script) := by
  by_cases single : kind = .single
  · subst single
    exact .whole _
  · rw [usageReads_of_ne script single, usageReply_of_ne script single, GpuKind.replies,
      List.map_append]
    cases budget : kind.reply script .recommendedMaxVram with
    | error error =>
        simp only [List.map_cons, List.map_nil, budget]
        exact .withoutBudget error
    | ok figure =>
        simp only [List.map_cons, List.map_nil, budget]
        exact .separate figure _

theorem device_value : ((query kind).gpu? script).value = kind.deviceReply script := by
  rw [MemoryQuery.gpu?_value, GpuKind.query_library, GpuKind.ask_value, GpuKind.ask_state,
    GpuKind.deviceReply]
  cases kind.reply script .library with
  | none => rfl
  | some library =>
      rw [Option.bind_some, Option.bind_some, MemoryQuery.vramUsage_eq_offered,
        MemoryQuery.offered_bind_device, usage_value, usageReply_after kind script (by decide)]

theorem deviceTold :
    DeviceTold (kind.replies script (kind.deviceReads script))
      ((query kind).gpu? script).value := by
  rw [device_value, GpuKind.deviceReply]
  cases told : kind.reply script .library with
  | none =>
      rw [replies_deviceReads_none kind script told]
      exact .absent
  | some library =>
      rw [replies_deviceReads_some kind script told]
      exact .found library (usageTold kind script)

theorem capture_value :
    ((query kind).capture script).value =
      ⟨⟨reported (kind.reply script .physicalMemory),
          reported (kind.reply script .freeMemory)⟩, kind.deviceReply script⟩ := by
  have device : ((query kind).gpu? ((query kind).gpuState script)).value =
      kind.deviceReply script := by
    rw [device_value, gpuState_eq, deviceReply_after kind _ (by decide),
      deviceReply_after kind _ (by decide)]
  have free : ((query kind).freeMemory ((query kind).physicalMemory script).state).value =
      reported (kind.reply script .freeMemory) := by
    have later : Method.physicalMemory ≠ .freeMemory := by decide
    rw [freeMemory_value, (physicalMemory_follows kind script).state]
    exact congrArg reported (GpuKind.reply_after_of_ne script later)
  rw [← physicalMemory_value, ← free, ← device]
  rfl

end

theorem Turn.answered (kind : GpuKind) (turn : Turn) :
    Answered turn.step (turn.exchanges kind) (turn.outcome kind).value := by
  rw [exchanges_eq_replies]
  rcases turn with ⟨session, step⟩
  cases step with
  | library =>
      change Answered _ _ (.library ((query kind).library session.script).value)
      rw [library_value]
      exact .library _
  | recommendedMaxVram =>
      change Answered _ _ (.figure ((query kind).recommendedMaxVram session.script).value)
      rw [recommendedMaxVram_value]
      exact .recommendedMaxVram _
  | currentAllocatedVram =>
      change Answered _ _ (.figure ((query kind).currentAllocatedVram session.script).value)
      rw [currentAllocatedVram_value]
      exact .currentAllocatedVram _
  | physicalMemory =>
      change Answered _ _ (.figure ((query kind).physicalMemory session.script).value)
      rw [physicalMemory_value]
      exact .physicalMemory _
  | freeMemory =>
      change Answered _ _ (.figure ((query kind).freeMemory session.script).value)
      rw [freeMemory_value]
      exact .freeMemory _
  | vramUsage =>
      change Answered _ _ (.usage ((query kind).vramUsage session.script).value)
      rw [MemoryQuery.vramUsage_eq_offered, usage_value]
      exact .vramUsage (usageTold kind session.script)
  | capture =>
      have device := deviceTold kind session.script
      rw [device_value] at device
      change Answered _ _ (.snapshot ((query kind).capture session.script).value)
      rw [capture_value]
      exact .capture _ _ device
  | text => exact .text _
  | fits request => exact .fits _ _
  | same => exact .same _
  | set changes => exact .set _

end MemoryProbe.Session
