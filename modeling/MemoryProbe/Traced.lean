import MemoryProbe.Log.Event

namespace MemoryProbe

/-- A computation over a state gives a value, the state after it, and the record of what
it did, in order. -/
structure Outcome (State Entry Value : Type) where
  value : Value
  state : State
  record : List Entry

def Traced (State Entry Value : Type) : Type :=
  State → Outcome State Entry Value

namespace Traced

variable {State Entry Value Result : Type}

def pure (value : Value) : Traced State Entry Value :=
  fun state => ⟨value, state, []⟩

def bind (first : Traced State Entry Value)
    (next : Value → Traced State Entry Result) : Traced State Entry Result :=
  fun state =>
    let head := first state
    let tail := next head.value head.state
    ⟨tail.value, tail.state, head.record ++ tail.record⟩

instance : Monad (Traced State Entry) where
  pure := pure
  bind := bind

def note (entry : Entry) : Traced State Entry Unit :=
  fun state => ⟨(), state, [entry]⟩

@[simp] theorem pure_apply (value : Value) (state : State) :
    (Pure.pure value : Traced State Entry Value) state = ⟨value, state, []⟩ := rfl

@[simp] theorem note_apply (entry : Entry) (state : State) :
    note entry state = ⟨(), state, [entry]⟩ := rfl

section

variable (first : Traced State Entry Value)
  (next : Value → Traced State Entry Result) (state : State)

theorem bind_apply : (first >>= next) state =
    ⟨(next (first state).value (first state).state).value,
      (next (first state).value (first state).state).state,
      (first state).record ++ (next (first state).value (first state).state).record⟩ := rfl

@[simp] theorem bind_value : ((first >>= next) state).value =
    (next (first state).value (first state).state).value := rfl

@[simp] theorem bind_state : ((first >>= next) state).state =
    (next (first state).value (first state).state).state := rfl

@[simp] theorem bind_record : ((first >>= next) state).record =
    (first state).record ++
      (next (first state).value (first state).state).record := rfl

end

end Traced

/-- Reading memory figures makes calls to a source and notes log events. -/
inductive Entry (Call : Type) where
  | call (made : Call)
  | event (noted : Log.Event)

namespace Entry

variable {Call : Type}

def call? : Entry Call → Option Call
  | .call made => some made
  | .event _ => none

def event? : Entry Call → Option Log.Event
  | .call _ => none
  | .event noted => some noted

def calls (record : List (Entry Call)) : List Call :=
  record.filterMap call?

def events (record : List (Entry Call)) : List Log.Event :=
  record.filterMap event?

@[simp] theorem calls_nil : calls ([] : List (Entry Call)) = [] := rfl

@[simp] theorem events_nil : events ([] : List (Entry Call)) = [] := rfl

@[simp] theorem calls_append (left right : List (Entry Call)) :
    calls (left ++ right) = calls left ++ calls right := by
  simp [calls]

@[simp] theorem events_append (left right : List (Entry Call)) :
    events (left ++ right) = events left ++ events right := by
  simp [events]

@[simp] theorem calls_call (made : Call) (rest : List (Entry Call)) :
    calls (.call made :: rest) = made :: calls rest := rfl

@[simp] theorem calls_event (noted : Log.Event) (rest : List (Entry Call)) :
    calls (.event noted :: rest) = calls rest := rfl

@[simp] theorem events_call (made : Call) (rest : List (Entry Call)) :
    events (.call made :: rest) = events rest := rfl

@[simp] theorem events_event (noted : Log.Event) (rest : List (Entry Call)) :
    events (.event noted :: rest) = noted :: events rest := rfl

end Entry

abbrev Reading (State Call Value : Type) : Type :=
  Traced State (Entry Call) Value

def Reading.call {State Call : Type} (made : Call) : Reading State Call Unit :=
  Traced.note (.call made)

def Reading.log {State Call : Type} (event : Log.Event) : Reading State Call Unit :=
  Traced.note (.event event)

end MemoryProbe
