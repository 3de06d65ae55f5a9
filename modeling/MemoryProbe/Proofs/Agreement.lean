import MemoryProbe.Query

namespace MemoryProbe

/-! ## Computations that agree -/

namespace Traced

variable {State Other Entry Entry' Value Result : Type} {Related : State → Other → Prop}

/-- Two computations agree along a relation of their states when from related states
they give the same value and end in related states. Their records may differ. -/
def Agrees (Related : State → Other → Prop) (left : Traced State Entry Value)
    (right : Traced Other Entry' Value) : Prop :=
  ∀ state other, Related state other →
    (left state).value = (right other).value ∧
      Related (left state).state (right other).state

namespace Agrees

theorem pure (value : Value) :
    Agrees Related (Pure.pure value : Traced State Entry Value)
      (Pure.pure value : Traced Other Entry' Value) :=
  fun _ _ related => ⟨rfl, related⟩

theorem note (entry : Entry) (entry' : Entry') :
    Agrees Related (Traced.note entry : Traced State Entry Unit)
      (Traced.note entry' : Traced Other Entry' Unit) :=
  fun _ _ related => ⟨rfl, related⟩

theorem bind {left : Traced State Entry Value} {right : Traced Other Entry' Value}
    {next : Value → Traced State Entry Result} {next' : Value → Traced Other Entry' Result}
    (heads : Agrees Related left right)
    (tails : ∀ value, Agrees Related (next value) (next' value)) :
    Agrees Related (left >>= next) (right >>= next') := by
  intro state other related
  rcases heads state other related with ⟨sameValue, relatedStates⟩
  rw [bind_value, bind_value, bind_state, bind_state, ← sameValue]
  exact tails _ _ _ relatedStates

end Agrees

end Traced

/-! ## Queries over agreeing sources

Sources that agree method by method cannot be told apart by any query. -/

namespace MemoryQuery

open Traced (Agrees)

variable {State Other Call Call' : Type} {Related : State → Other → Prop}

structure SourcesAgree (Related : State → Other → Prop) (left : MemoryQuery State Call)
    (right : MemoryQuery Other Call') : Prop where
  library : Agrees Related left.gpu.library right.gpu.library
  recommended : Agrees Related left.gpu.recommended right.gpu.recommended
  allocated : Agrees Related left.gpu.allocated right.gpu.allocated
  usage : Agrees Related left.gpu.usage right.gpu.usage
  physical : Agrees Related left.system.physical right.system.physical
  free : Agrees Related left.system.free right.system.free

theorem orUnknown_agrees (scalar : Log.ScalarQuery)
    {left : Reading State Call (Except QueryError ByteCount)}
    {right : Reading Other Call' (Except QueryError ByteCount)}
    (reads : Agrees Related left right) :
    Agrees Related (orUnknown scalar left) (orUnknown scalar right) := by
  apply reads.bind
  intro read
  cases read with
  | ok figure => exact Agrees.pure figure
  | error error => exact (Agrees.note _ _).bind fun _ => Agrees.pure 0

theorem device_agrees (library : Library) (usage : VramUsage) :
    Agrees Related (device library usage : Reading State Call _)
      (device library usage : Reading Other Call' _) := by
  unfold device
  cases library.device usage with
  | some gpu => exact Agrees.pure _
  | none => exact (Agrees.note _ _).bind fun _ => Agrees.pure none

namespace SourcesAgree

variable {left : MemoryQuery State Call} {right : MemoryQuery Other Call'}
  (sources : SourcesAgree Related left right)

include sources

theorem recommendedMaxVram : Agrees Related left.recommendedMaxVram right.recommendedMaxVram :=
  orUnknown_agrees _ sources.recommended

theorem currentAllocatedVram :
    Agrees Related left.currentAllocatedVram right.currentAllocatedVram :=
  orUnknown_agrees _ sources.allocated

theorem physicalMemory : Agrees Related left.physicalMemory right.physicalMemory :=
  orUnknown_agrees _ sources.physical

theorem freeMemory : Agrees Related left.freeMemory right.freeMemory :=
  orUnknown_agrees _ sources.free

theorem vramUsage : Agrees Related left.vramUsage right.vramUsage := by
  apply sources.usage.bind
  intro read
  cases read with
  | ok usage => exact Agrees.pure _
  | error error => exact (Agrees.note _ _).bind fun _ => Agrees.pure none

theorem gpu? : Agrees Related left.gpu? right.gpu? := by
  apply sources.library.bind
  intro found
  cases found with
  | none => exact Agrees.pure none
  | some library =>
      apply sources.vramUsage.bind
      intro usage
      cases usage with
      | none => exact Agrees.pure none
      | some usage => exact device_agrees library usage

theorem capture : Agrees Related left.capture right.capture := by
  apply sources.physicalMemory.bind
  intro total
  apply sources.freeMemory.bind
  intro free
  apply sources.gpu?.bind
  intro gpu
  exact (Agrees.note _ _).bind fun _ => Agrees.pure _

end SourcesAgree

end MemoryQuery

end MemoryProbe
