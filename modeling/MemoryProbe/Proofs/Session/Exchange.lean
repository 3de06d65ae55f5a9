import MemoryProbe.Proofs.Queries
import MemoryProbe.Session

namespace MemoryProbe

/-! ## Replies in turn -/

namespace Replies

variable {Reply : Type}

/-- The entry for each call, counted from zero; past the end of the list the last entry
stays. -/
def entry (replies : Replies Reply) (index : Nat) : Reply :=
  (replies.current :: replies.later).getD index
    ((replies.current :: replies.later).getLast (List.cons_ne_nil _ _))

theorem entry_succ (replies : Replies Reply) (index : Nat) :
    replies.entry (index + 1) = replies.advance.entry index := by
  rcases replies with ⟨current, later⟩
  cases later with
  | nil => cases index <;> rfl
  | cons next later => simp [entry, advance]

/-- What happens to the replies of a method over time: they are set, or one of them is
given as an answer. -/
inductive Move (Reply : Type) where
  | set (replies : Replies Reply)
  | answered (reply : Reply)

/-- Answers are in turn when each is the one at hand, the replies moving on by one after
it. -/
def InTurn : Replies Reply → List (Move Reply) → Prop
  | _, [] => True
  | _, .set next :: rest => InTurn next rest
  | replies, .answered reply :: rest => reply = replies.current ∧ InTurn replies.advance rest

theorem InTurn.of_set {standing replies : Replies Reply} {earlier rest : List (Move Reply)}
    (inTurn : InTurn standing (earlier ++ .set replies :: rest)) : InTurn replies rest := by
  induction earlier generalizing standing with
  | nil => exact inTurn
  | cons move earlier induction =>
      cases move with
      | set next => exact induction inTurn
      | answered reply => exact induction inTurn.2

theorem InTurn.eq_entry {replies : Replies Reply} {answers : List Reply} {reply : Reply}
    {later : List (Move Reply)}
    (inTurn : InTurn replies (answers.map .answered ++ .answered reply :: later)) :
    reply = replies.entry answers.length := by
  induction answers generalizing replies with
  | nil => exact inTurn.1
  | cons answer answers induction =>
      rw [List.length_cons, entry_succ]
      exact induction inTurn.2

end Replies

namespace Session

/-! ## Exchanges -/

/-- Every method has its own kind of reply. -/
abbrev Method.Reply : Method → Type
  | .library => Option Library
  | .recommendedMaxVram => Except QueryError ByteCount
  | .currentAllocatedVram => Except QueryError ByteCount
  | .vramUsage => Except QueryError VramUsage
  | .physicalMemory => Except QueryError ByteCount
  | .freeMemory => Except QueryError ByteCount

/-- A method together with what it replied. -/
abbrev Exchange : Type := (method : Method) × method.Reply

def ofMethod? {Value : Method → Type} (method : Method)
    (tagged : (method : Method) × Value method) : Option (Value method) :=
  if same : tagged.1 = method then some (same ▸ tagged.2) else none

section

variable {Value : Method → Type}

@[simp] theorem ofMethod?_self (method : Method) (value : Value method) :
    ofMethod? method (⟨method, value⟩ : (method : Method) × Value method) = some value := by
  simp [ofMethod?]

theorem ofMethod?_of_ne {method other : Method} (different : other ≠ method)
    (value : Value other) :
    ofMethod? method (⟨other, value⟩ : (method : Method) × Value method) = none := by
  simp [ofMethod?, different]

end

/-! ## The replies that stand in a script -/

namespace Script

def standing (script : Script) : (method : Method) → Replies method.Reply
  | .library => script.library
  | .recommendedMaxVram => script.recommended
  | .currentAllocatedVram => script.allocated
  | .vramUsage => script.usage
  | .physicalMemory => script.physical
  | .freeMemory => script.free

def consume (script : Script) : Method → Script
  | .library => { script with library := script.library.advance }
  | .recommendedMaxVram => { script with recommended := script.recommended.advance }
  | .currentAllocatedVram => { script with allocated := script.allocated.advance }
  | .vramUsage => { script with usage := script.usage.advance }
  | .physicalMemory => { script with physical := script.physical.advance }
  | .freeMemory => { script with free := script.free.advance }

@[simp] theorem standing_consume_self (script : Script) (method : Method) :
    (script.consume method).standing method = (script.standing method).advance := by
  cases method <;> rfl

theorem standing_consume_of_ne (script : Script) {method other : Method}
    (different : other ≠ method) :
    (script.consume other).standing method = script.standing method := by
  cases other <;> cases method <;> first | rfl | contradiction

end Script

def Change.target : Change → (method : Method) × Replies method.Reply
  | .library replies => ⟨.library, replies⟩
  | .recommended replies => ⟨.recommendedMaxVram, replies⟩
  | .allocated replies => ⟨.currentAllocatedVram, replies⟩
  | .usage replies => ⟨.vramUsage, replies⟩
  | .physical replies => ⟨.physicalMemory, replies⟩
  | .free replies => ⟨.freeMemory, replies⟩

theorem Change.standing_apply (change : Change) (script : Script) (method : Method) :
    (change.apply script).standing method =
      (ofMethod? method change.target).getD (script.standing method) := by
  cases change <;> cases method <;> rfl

/-! ## Asking a source

A source with a script answers from it. Without a GPU framework the GPU methods are
not scripted: they always answer the same, and leave the script alone. -/

namespace GpuKind

def missing : List Exchange :=
  [⟨.library, none⟩,
    ⟨.recommendedMaxVram, .error (.unsupported "recommended_max_vram")⟩,
    ⟨.currentAllocatedVram, .error (.unsupported "current_allocated_vram")⟩,
    ⟨.vramUsage, .error (.unsupported "recommended_max_vram")⟩]

def scripts (kind : GpuKind) : Method → Bool
  | .physicalMemory => true
  | .freeMemory => true
  | _ => kind ≠ .unsupported

def told (kind : GpuKind) (script : Script) : Script :=
  match kind with
  | .unsupported =>
      { script with
        library := .fixed none
        recommended := .fixed (.error (.unsupported "recommended_max_vram"))
        allocated := .fixed (.error (.unsupported "current_allocated_vram"))
        usage := .fixed (.error (.unsupported "recommended_max_vram")) }
  | _ => script

def reply (kind : GpuKind) (script : Script) (method : Method) : method.Reply :=
  ((kind.told script).standing method).current

def after (kind : GpuKind) (script : Script) (method : Method) : Script :=
  if kind.scripts method then script.consume method else script

def ask (kind : GpuKind) (method : Method) : Reading Script Method method.Reply :=
  fun script => ⟨kind.reply script method, kind.after script method,
    if kind.scripts method then [.call method] else []⟩

/-- Asking for several replies in turn. -/
def hear (kind : GpuKind) : Script → List Method → List Exchange
  | _, [] => []
  | script, method :: rest =>
      ⟨method, (kind.ask method script).value⟩ :: kind.hear (kind.ask method script).state rest

/-- The replies that stand in one script. -/
def replies (kind : GpuKind) (script : Script) (methods : List Method) : List Exchange :=
  methods.map fun method => ⟨method, kind.reply script method⟩

section

variable (kind : GpuKind) (method : Method) (script : Script)

@[simp] theorem ask_value : (kind.ask method script).value = kind.reply script method := rfl

@[simp] theorem ask_state : (kind.ask method script).state = kind.after script method := rfl

@[simp] theorem events_ask : Entry.events (kind.ask method script).record = [] := by
  cases scripted : kind.scripts method <;> simp [ask, scripted]

end

variable {kind : GpuKind}

theorem standing_told_of_scripts (script : Script) {method : Method}
    (scripted : kind.scripts method = true) :
    (kind.told script).standing method = script.standing method := by
  cases kind <;> cases method <;> first | rfl | contradiction

theorem exchange_mem_missing (script : Script) {method : Method}
    (unscripted : kind.scripts method = false) :
    (⟨method, kind.reply script method⟩ : Exchange) ∈ missing := by
  cases kind with
  | split => cases method <;> contradiction
  | single => cases method <;> contradiction
  | unsupported =>
      cases method with
      | library => exact .head _
      | recommendedMaxVram => exact .tail _ (.head _)
      | currentAllocatedVram => exact .tail _ (.tail _ (.head _))
      | vramUsage => exact .tail _ (.tail _ (.tail _ (.head _)))
      | physicalMemory => contradiction
      | freeMemory => contradiction

theorem reply_after_of_ne (script : Script) {method other : Method}
    (different : other ≠ method) :
    kind.reply (kind.after script other) method = kind.reply script method := by
  cases kind <;> cases other <;> cases method <;> first | rfl | contradiction

/-- Asking a scripted method moves its own replies on and leaves all others alone. -/
theorem standing_after_of_ne (script : Script) {method other : Method}
    (different : other ≠ method) :
    (kind.after script other).standing method = script.standing method := by
  rw [GpuKind.after]
  split
  · exact script.standing_consume_of_ne different
  · rfl

theorem standing_after_self {method : Method} (scripted : kind.scripts method = true)
    (script : Script) :
    (kind.after script method).standing method = (script.standing method).advance := by
  rw [GpuKind.after, if_pos scripted, Script.standing_consume_self]

/-- Methods asked once each answer as the first of them finds the script. -/
theorem replies_after (script : Script) {methods : List Method} {other : Method}
    (fresh : other ∉ methods) :
    kind.replies (kind.after script other) methods = kind.replies script methods := by
  apply List.map_congr_left
  intro method member
  have different : other ≠ method := fun same => fresh (same ▸ member)
  rw [reply_after_of_ne script different]

theorem hear_eq_replies (script : Script) {methods : List Method} (nodup : methods.Nodup) :
    kind.hear script methods = kind.replies script methods := by
  induction methods generalizing script with
  | nil => rfl
  | cons first rest induction =>
      rcases List.nodup_cons.mp nodup with ⟨fresh, restNodup⟩
      rw [hear, ask_value, ask_state, induction _ restNodup, replies_after script fresh]
      rfl

variable (kind)

/-- Every source method of a query asks for one reply, the combined read of a source
that has none of its own apart. -/
theorem query_library : (query kind).gpu.library = kind.ask .library := by
  cases kind <;> rfl

theorem query_recommended : (query kind).gpu.recommended = kind.ask .recommendedMaxVram := by
  cases kind <;> rfl

theorem query_allocated : (query kind).gpu.allocated = kind.ask .currentAllocatedVram := by
  cases kind <;> rfl

theorem query_physical : (query kind).system.physical = kind.ask .physicalMemory := by
  cases kind <;> rfl

theorem query_free : (query kind).system.free = kind.ask .freeMemory := by
  cases kind <;> rfl

theorem query_usage_single : (query .single).gpu.usage = GpuKind.single.ask .vramUsage := rfl

theorem query_usage_of_ne {kind : GpuKind} (separate : kind ≠ .single) :
    (query kind).gpu.usage =
      GpuSource.separateUsage (kind.ask .recommendedMaxVram)
        (kind.ask .currentAllocatedVram) := by
  cases kind <;> first | rfl | contradiction

end GpuKind

end Session

end MemoryProbe
