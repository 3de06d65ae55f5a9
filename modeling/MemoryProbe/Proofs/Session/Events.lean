import MemoryProbe.Proofs.Session.Answers

namespace MemoryProbe.Session

open MemoryQuery (reported)

/-! ## What an exchange tells

A reply can be a failure; one can name a library, and one a budget. -/

def failureOf {Value : Type} : Except QueryError Value → Option QueryError
  | .ok _ => none
  | .error error => some error

namespace Exchange

def failure? : Exchange → Option QueryError
  | ⟨.library, _⟩ => none
  | ⟨.recommendedMaxVram, reply⟩ => failureOf reply
  | ⟨.currentAllocatedVram, reply⟩ => failureOf reply
  | ⟨.vramUsage, reply⟩ => failureOf reply
  | ⟨.physicalMemory, reply⟩ => failureOf reply
  | ⟨.freeMemory, reply⟩ => failureOf reply

def library? : Exchange → Option Library
  | ⟨.library, reply⟩ => reply
  | _ => none

def budget? : Exchange → Option ByteCount
  | ⟨.recommendedMaxVram, .ok figure⟩ => some figure
  | ⟨.vramUsage, .ok usage⟩ => some usage.recommended
  | _ => none

end Exchange

/-! ## Events of failures -/

namespace Step

/-- The scalar query on whose behalf a step asks a method. A capture asks for the system
figures through the scalar queries and for the device through the combined one. -/
def scalar? : Step → Method → Option Log.ScalarQuery
  | _, .physicalMemory => some .physicalMemory
  | _, .freeMemory => some .freeMemory
  | .recommendedMaxVram, .recommendedMaxVram => some .recommendedMaxVram
  | .currentAllocatedVram, .currentAllocatedVram => some .currentAllocatedVram
  | _, _ => none

def failureEvent (step : Step) (method : Method) (error : QueryError) : Log.Event :=
  match step.scalar? method with
  | some query => .queryUnavailable query error
  | none =>
      if method = .currentAllocatedVram then .allocationUnavailable error
      else .usageUnavailable error

def failureEvent? (step : Step) (exchange : Exchange) : Option Log.Event :=
  (Exchange.failure? exchange).map (step.failureEvent exchange.1)

/-- The event of one reply to a scalar query, and of one that is not a failure. -/
theorem filterMap_failureEvent?_scalar (step : Step) {method : Method} {reply : method.Reply}
    {scalar : Log.ScalarQuery} {read : Except QueryError ByteCount}
    (told : Exchange.failure? ⟨method, reply⟩ = failureOf read)
    (asked : step.scalar? method = some scalar) :
    ([⟨method, reply⟩] : List Exchange).filterMap step.failureEvent? =
      MemoryQuery.unavailable scalar read := by
  cases read with
  | ok figure => simp [failureEvent?, told, failureOf, MemoryQuery.unavailable]
  | error error =>
      simp [failureEvent?, told, failureOf, failureEvent, asked, MemoryQuery.unavailable]

end Step

def belowMinimumEvents (told : List Exchange) : List Log.Event :=
  match told.findSome? Exchange.library?, told.findSome? Exchange.budget? with
  | some library, some recommended => MemoryQuery.belowMinimum library recommended
  | _, _ => []

/-! ## The events of a combined read

Under a step that reads the device as a whole, the events of the read and of the query
together are those of the failed replies. -/

section

variable (kind : GpuKind) (script : Script)

theorem events_usage (step : Step) (recommended : step.scalar? .recommendedMaxVram = none)
    (allocated : step.scalar? .currentAllocatedVram = none) :
    Entry.events ((query kind).gpu.usage script).record ++
        MemoryQuery.usageUnavailable (kind.usageReply script) =
      (kind.replies script (kind.usageReads script)).filterMap step.failureEvent? := by
  by_cases single : kind = .single
  · subst single
    rw [GpuKind.query_usage_single, GpuKind.events_ask, List.nil_append]
    change MemoryQuery.usageUnavailable (GpuKind.single.reply script .vramUsage) =
      [⟨.vramUsage, GpuKind.single.reply script .vramUsage⟩].filterMap step.failureEvent?
    cases GpuKind.single.reply script .vramUsage with
    | ok usage => rfl
    | error error => cases step <;> rfl
  · rw [GpuKind.query_usage_of_ne single, GpuSource.events_separateUsage,
      usageReads_of_ne script single, usageReply_of_ne script single]
    simp only [GpuKind.events_ask, GpuKind.ask_value, GpuKind.ask_state, List.nil_append]
    rw [GpuKind.reply_after_of_ne script (by decide), GpuKind.replies, List.map_append]
    cases budget : kind.reply script .recommendedMaxVram with
    | error error =>
        -- The read passes this failure on in silence: the query notes it.
        have noted : step.failureEvent .recommendedMaxVram error = .usageUnavailable error := by
          simp [Step.failureEvent, recommended]
        simp only [List.map_cons, List.map_nil, List.append_nil, budget]
        exact congrArg (fun event => [event]) noted.symm
    | ok figure =>
        simp only [List.map_cons, List.map_nil, budget]
        cases kind.reply script .currentAllocatedVram with
        | ok taken => rfl
        | error error =>
            -- The read notes this failure and answers all the same.
            have noted : step.failureEvent .currentAllocatedVram error =
                .allocationUnavailable error := by
              simp [Step.failureEvent, allocated]
            exact congrArg (fun event => [event]) noted.symm

private theorem findSome?_budget :
    (kind.replies script (kind.usageReads script)).findSome? Exchange.budget? =
      match kind.usageReply script with
      | .ok usage => some usage.recommended
      | .error _ => none := by
  by_cases single : kind = .single
  · subst single
    change [⟨.vramUsage, GpuKind.single.reply script .vramUsage⟩].findSome?
      Exchange.budget? = match GpuKind.single.reply script .vramUsage with
        | .ok usage => some usage.recommended
        | .error _ => none
    cases GpuKind.single.reply script .vramUsage <;> rfl
  · rw [usageReads_of_ne script single, usageReply_of_ne script single, GpuKind.replies,
      List.map_append]
    cases budget : kind.reply script .recommendedMaxVram <;>
      simp only [List.map_cons, List.map_nil, budget] <;> rfl

end

/-! ## The events of scalar queries and captures -/

section

variable (kind : GpuKind) (script : Script)

theorem events_physicalMemory (step : Step) :
    Entry.events ((query kind).physicalMemory script).record =
      (kind.replies script [.physicalMemory]).filterMap step.failureEvent? := by
  rw [MemoryQuery.physicalMemory, GpuKind.query_physical, MemoryQuery.events_orUnknown,
    GpuKind.events_ask]
  exact (step.filterMap_failureEvent?_scalar rfl rfl).symm

theorem events_freeMemory (step : Step) :
    Entry.events ((query kind).freeMemory script).record =
      (kind.replies script [.freeMemory]).filterMap step.failureEvent? := by
  rw [MemoryQuery.freeMemory, GpuKind.query_free, MemoryQuery.events_orUnknown,
    GpuKind.events_ask]
  exact (step.filterMap_failureEvent?_scalar rfl rfl).symm

theorem events_recommendedMaxVram {step : Step}
    (asked : step.scalar? .recommendedMaxVram = some .recommendedMaxVram) :
    Entry.events ((query kind).recommendedMaxVram script).record =
      (kind.replies script [.recommendedMaxVram]).filterMap step.failureEvent? := by
  rw [MemoryQuery.recommendedMaxVram, GpuKind.query_recommended, MemoryQuery.events_orUnknown,
    GpuKind.events_ask]
  exact (step.filterMap_failureEvent?_scalar rfl asked).symm

theorem events_currentAllocatedVram {step : Step}
    (asked : step.scalar? .currentAllocatedVram = some .currentAllocatedVram) :
    Entry.events ((query kind).currentAllocatedVram script).record =
      (kind.replies script [.currentAllocatedVram]).filterMap step.failureEvent? := by
  rw [MemoryQuery.currentAllocatedVram, GpuKind.query_allocated, MemoryQuery.events_orUnknown,
    GpuKind.events_ask]
  exact (step.filterMap_failureEvent?_scalar rfl asked).symm

theorem events_vramUsage :
    Entry.events ((query kind).vramUsage script).record =
      (kind.replies script (kind.usageReads script)).filterMap
        Step.vramUsage.failureEvent? := by
  rw [MemoryQuery.events_vramUsage, usage_value]
  exact events_usage kind script .vramUsage rfl rfl

/-- The library and the budget that the closing note looks for are told by the device
part of a capture alone. -/
theorem belowMinimumEvents_usage (library : Library) :
    belowMinimumEvents
        (⟨.library, some library⟩ :: kind.replies script (kind.usageReads script)) =
      match kind.usageReply script with
      | .ok usage => MemoryQuery.belowMinimum library usage.recommended
      | .error _ => [] := by
  have budget : (⟨.library, some library⟩ ::
      kind.replies script (kind.usageReads script)).findSome? Exchange.budget? = _ :=
    findSome?_budget kind script
  rw [belowMinimumEvents, budget]
  cases kind.usageReply script <;> rfl

private theorem belowMinimumEvents_system (physical free : Except QueryError ByteCount)
    (told : List Exchange) :
    belowMinimumEvents (⟨.physicalMemory, physical⟩ :: ⟨.freeMemory, free⟩ :: told) =
      belowMinimumEvents told := rfl

theorem events_device :
    Entry.events ((query kind).gpu? script).record =
      (kind.replies script (kind.deviceReads script)).filterMap Step.capture.failureEvent? ++
        belowMinimumEvents (kind.replies script (kind.deviceReads script)) := by
  have usage := events_usage kind (kind.after script .library) .capture rfl rfl
  rw [usageReply_after kind script (by decide),
    replies_usageReads_after kind script (by decide)] at usage
  rw [MemoryQuery.events_gpu?, GpuKind.query_library, GpuKind.events_ask, usage_value,
    GpuKind.ask_value, GpuKind.ask_state, usageReply_after kind script (by decide),
    List.nil_append]
  cases told : kind.reply script .library with
  | none =>
      rw [replies_deviceReads_none kind script told]
      rfl
  | some library =>
      rw [replies_deviceReads_some kind script told, belowMinimumEvents_usage]
      change _ = (kind.replies script (kind.usageReads script)).filterMap _ ++ _
      rw [← usage, List.append_assoc]
      cases kind.usageReply script <;> rfl

theorem events_capture :
    Entry.events ((query kind).capture script).record =
      (kind.replies script (kind.captureReads script)).filterMap
          Step.capture.failureEvent? ++
        belowMinimumEvents (kind.replies script (kind.captureReads script)) ++
        [.captured ((query kind).capture script).value] := by
  have heard : kind.replies script (kind.captureReads script) =
      kind.replies script [.physicalMemory] ++ kind.replies script [.freeMemory] ++
        kind.replies script (kind.deviceReads script) := rfl
  have physical := events_physicalMemory kind script .capture
  have free := events_freeMemory kind (kind.after script .physicalMemory) .capture
  have device := events_device kind ((query kind).gpuState script)
  rw [GpuKind.replies_after script (by decide)] at free
  rw [replies_deviceReads_gpuState] at device
  have after : ((query kind).physicalMemory script).state =
      kind.after script .physicalMemory := (physicalMemory_follows kind script).state
  have below : belowMinimumEvents (kind.replies script (kind.captureReads script)) =
      belowMinimumEvents (kind.replies script (kind.deviceReads script)) :=
    belowMinimumEvents_system _ _ _
  rw [MemoryQuery.events_capture, after, physical, free, device, below, heard,
    List.filterMap_append, List.filterMap_append, List.append_assoc _ _ (belowMinimumEvents _)]

end

/-! ## The events of a run -/

namespace Turn

variable (kind : GpuKind) (turn : Turn)

theorem events_outcome :
    Entry.events (turn.outcome kind).record =
      (turn.exchanges kind).filterMap turn.step.failureEvent? ++
        match (turn.outcome kind).value with
        | .snapshot taken => belowMinimumEvents (turn.exchanges kind) ++ [.captured taken]
        | _ => [] := by
  rw [exchanges_eq_replies]
  rcases turn with ⟨session, step⟩
  cases step with
  | library =>
      change Entry.events ((query kind).library session.script).record = [] ++ []
      rw [MemoryQuery.library, GpuKind.query_library]
      exact GpuKind.events_ask _ _ _
  | recommendedMaxVram =>
      exact (events_recommendedMaxVram kind session.script rfl).trans (List.append_nil _).symm
  | currentAllocatedVram =>
      exact (events_currentAllocatedVram kind session.script rfl).trans (List.append_nil _).symm
  | physicalMemory =>
      exact (events_physicalMemory kind session.script .physicalMemory).trans
        (List.append_nil _).symm
  | freeMemory =>
      exact (events_freeMemory kind session.script .freeMemory).trans (List.append_nil _).symm
  | vramUsage => exact (events_vramUsage kind session.script).trans (List.append_nil _).symm
  | capture => exact (events_capture kind session.script).trans (List.append_assoc _ _ _)
  | text => rfl
  | fits request => rfl
  | same => rfl
  | set changes => rfl

private theorem events_of_capture (captures : turn.step = .capture) :
    ∃ taken, (turn.outcome kind).value = .snapshot taken ∧
      Entry.events (turn.outcome kind).record =
        (turn.exchanges kind).filterMap turn.step.failureEvent? ++
          belowMinimumEvents (turn.exchanges kind) ++ [.captured taken] := by
  have events := turn.events_outcome kind
  rcases turn with ⟨session, step⟩
  cases captures
  exact ⟨_, rfl, events.trans (List.append_assoc _ _ _).symm⟩

private theorem events_of_ne_capture (other : turn.step ≠ .capture) :
    Entry.events (turn.outcome kind).record =
      (turn.exchanges kind).filterMap turn.step.failureEvent? := by
  have events := turn.events_outcome kind
  have answered := turn.answered kind
  rw [events]
  cases answer : (turn.outcome kind).value with
  | snapshot taken =>
      rw [answer] at answered
      exact absurd answered.capture_of_snapshot other
  | _ => exact List.append_nil _

end Turn

def noted (event : Log.Event) : Log.Level × List Log.Field :=
  (event.level, event.fields)

/-- What is noted of a failed reply. -/
def failureNote (step : Step) (method : Method) (error : QueryError) :
    Log.Level × List Log.Field :=
  (.debug, ((step.scalar? method).map fun query => ⟨"query", .quoted query.name⟩).toList ++
    [⟨"error", .shown error.message⟩])

/-- What is noted of a snapshot. -/
def captureNote (taken : Snapshot) : Log.Level × List Log.Field :=
  (.debug, [⟨"total", .shown taken.system.total.toNat.repr⟩,
    ⟨"free", .shown taken.system.free.toNat.repr⟩,
    ⟨"gpu", .shown (Log.deviceText taken.gpu)⟩])

private theorem noted_failureEvent (step : Step) (method : Method) (error : QueryError) :
    noted (step.failureEvent method error) = failureNote step method error := by
  unfold Step.failureEvent failureNote
  cases step.scalar? method with
  | some query => rfl
  | none =>
      by_cases allocation : method = .currentAllocatedVram
      · simp only [if_pos allocation]
        rfl
      · simp only [if_neg allocation]
        rfl

private theorem level_of_mem_belowMinimumEvents {told : List Exchange} {event : Log.Event}
    (member : event ∈ belowMinimumEvents told) : event.level = .info := by
  unfold belowMinimumEvents at member
  split at member
  · rw [MemoryQuery.belowMinimum] at member
    split at member
    · cases List.mem_singleton.mp member
      rfl
    · cases member
  · cases member

/-- The events of one turn. -/
structure Turn.LogsExactly (kind : GpuKind) (turn : Turn) : Prop where
  answered : Answered turn.step (turn.exchanges kind) (turn.outcome kind).value
  failures : ∀ exchange ∈ turn.exchanges kind,
    (turn.step.failureEvent? exchange).map noted =
      (Exchange.failure? exchange).map (failureNote turn.step exchange.1)
  failures_only : turn.step ≠ .capture →
    Entry.events (turn.outcome kind).record =
      (turn.exchanges kind).filterMap turn.step.failureEvent?
  capture : turn.step = .capture →
    ∃ taken, (turn.outcome kind).value = .snapshot taken ∧
      Entry.events (turn.outcome kind).record =
        (turn.exchanges kind).filterMap turn.step.failureEvent? ++
          belowMinimumEvents (turn.exchanges kind) ++ [.captured taken] ∧
      (∀ event ∈ belowMinimumEvents (turn.exchanges kind), event.level = .info) ∧
      noted (.captured taken) = captureNote taken

theorem Turn.logsExactly (kind : GpuKind) (turn : Turn) : turn.LogsExactly kind where
  answered := turn.answered kind
  failures := by
    intro exchange _
    rw [Step.failureEvent?, Option.map_map]
    congr 1
    funext error
    exact noted_failureEvent turn.step _ error
  failures_only := turn.events_of_ne_capture kind
  capture := by
    intro captures
    rcases turn.events_of_capture kind captures with ⟨taken, value, events⟩
    exact ⟨taken, value, events, fun _ => level_of_mem_belowMinimumEvents, rfl⟩

/-- No step of a run fails: each gives its own kind of answer, and a scalar query the
figure it was told or zero. The failed replies of a step leave one event each, in
order, with the text of the error; an inherited combined read that has no budget passes
one failure on, which is noted once. Captures alone note more: that the budget is
positive and below the minimum, where it is, and at the end the snapshot. -/
theorem errors_logged_once (kind : GpuKind) (script : Script) (steps : List Step) :
    (turns kind (start script) steps).map Turn.step = steps ∧
      run kind (start script) steps =
        (turns kind (start script) steps).map (Turn.outcome kind) ∧
      ∀ turn ∈ turns kind (start script) steps, turn.LogsExactly kind :=
  ⟨map_step_turns kind _ steps, run_eq_map_turns kind _ steps,
    fun turn _ => turn.logsExactly kind⟩

end MemoryProbe.Session
