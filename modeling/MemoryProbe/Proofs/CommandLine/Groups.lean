import MemoryProbe.CommandLine.Parse

namespace MemoryProbe.CommandLine

/-! ## Groups of arguments -/

/-- An option and its value are spelled in one argument or in two. In two, the value
must not look like an option itself; a single dash does not. -/
inductive Spelling where
  | attached
  | detached
  deriving DecidableEq, Repr

structure Group where
  setting : Setting
  value : Bytes
  spelling : Spelling
  deriving DecidableEq, Repr

def optionArgument (setting : Setting) : Bytes :=
  Bytes.ofString ("--" ++ setting.optionName)

def attachedArgument (setting : Setting) (value : Bytes) : Bytes :=
  Bytes.ofString ("--" ++ setting.optionName ++ "=") ++ value

def separatorArgument : Bytes :=
  Bytes.ofString "--"

def Detachable (value : Bytes) : Prop :=
  value = [dash] ∨ value.head? ≠ some dash

namespace Group

def arguments (group : Group) : List Bytes :=
  match group.spelling with
  | .attached => [attachedArgument group.setting group.value]
  | .detached => [optionArgument group.setting, group.value]

def Spellable (group : Group) : Prop :=
  group.spelling = .detached → Detachable group.value

end Group

/-- Groups spell a list of arguments, which may be closed by a separator. -/
structure Spells (groups : List Group) (arguments : List Bytes) : Prop where
  spelled : arguments = groups.flatMap Group.arguments ∨
    arguments = groups.flatMap Group.arguments ++ [separatorArgument]
  spellable : ∀ group ∈ groups, group.Spellable

/-! ## Single arguments -/

namespace Argument

theorem ofBytes_option (setting : Setting) :
    ofBytes (optionArgument setting) = .long (Bytes.ofString setting.optionName) none := by
  cases setting <;> decide +kernel

theorem ofBytes_attached (setting : Setting) (value : Bytes) :
    ofBytes (attachedArgument setting value) =
      .long (Bytes.ofString setting.optionName) (some value) := by
  cases setting <;> rfl

theorem ofBytes_separator : ofBytes separatorArgument = .separator := rfl

theorem ofBytes_of_detachable {value : Bytes} (detachable : Detachable value) :
    ofBytes value = .plain value := by
  rcases detachable with rfl | notDash
  · rfl
  · unfold ofBytes
    split <;> first | rfl | exact absurd rfl notDash

/-- Every kind of argument shows in its bytes. -/
theorem long?_cases (body : Bytes) :
    long? body = .long body none ∨
      ∃ name value, body = name ++ equalsSign :: value ∧ long? body = .long name (some value) := by
  unfold long?
  cases behind : body.dropWhile (· != equalsSign) with
  | nil => exact .inl rfl
  | cons sign value =>
      have isSign : sign = equalsSign := by
        have stopped := List.head?_dropWhile_not (· != equalsSign) body
        simpa [behind] using stopped
      subst isSign
      refine .inr ⟨_, value, ?_, rfl⟩
      rw [← behind, List.takeWhile_append_dropWhile]

private theorem eq_of_ofBytes_separator {argument : Bytes} (kind : ofBytes argument = .separator) :
    argument = separatorArgument := by
  unfold ofBytes at kind
  split at kind
  case h_1 => rfl
  case h_2 body _ =>
    rcases long?_cases body with found | ⟨name, value, -, found⟩ <;> simp [found] at kind
  all_goals cases kind

private theorem of_ofBytes_plain {argument value : Bytes} (kind : ofBytes argument = .plain value) :
    argument = value ∧ Detachable value := by
  unfold ofBytes at kind
  split at kind
  case h_2 body _ =>
    rcases long?_cases body with found | ⟨name, value, -, found⟩ <;> simp [found] at kind
  case h_4 notSeparator notLong notShort =>
    cases kind
    refine ⟨rfl, ?_⟩
    cases argument with
    | nil => exact .inr (by simp)
    | cons first rest =>
        by_cases isDash : first = dash
        · subst isDash
          cases rest with
          | nil => exact .inl rfl
          | cons flag flags => exact (notShort flag flags rfl).elim
        · exact .inr (by simpa using isDash)
  all_goals cases kind

private theorem of_ofBytes_long {argument name : Bytes} {value : Option Bytes}
    (kind : ofBytes argument = .long name value) :
    argument = dash :: dash :: name ++ value.elim [] (equalsSign :: ·) := by
  unfold ofBytes at kind
  split at kind
  case h_2 body _ =>
    rcases long?_cases body with found | ⟨name, value, rfl, found⟩
    · rw [found] at kind
      cases kind
      simp [dash]
    · rw [found] at kind
      cases kind
      rfl
  all_goals cases kind

end Argument

namespace Setting

theorem ofOptionName?_optionName (setting : Setting) :
    ofOptionName? (Bytes.ofString setting.optionName) = some setting := by
  cases setting <;> decide +kernel

theorem eq_of_ofOptionName? {name : Bytes} {setting : Setting}
    (found : ofOptionName? name = some setting) : name = Bytes.ofString setting.optionName := by
  simpa using List.find?_some found

end Setting

private theorem optionArgument_eq (setting : Setting) :
    optionArgument setting = dash :: dash :: Bytes.ofString setting.optionName := by
  rw [optionArgument, Bytes.ofString_append]
  rfl

private theorem attachedArgument_eq (setting : Setting) (value : Bytes) :
    attachedArgument setting value =
      dash :: dash :: Bytes.ofString setting.optionName ++ equalsSign :: value := by
  rw [attachedArgument, Bytes.ofString_append, Bytes.ofString_append, List.append_assoc]
  rfl

/-! ## Reading groups

A group whose value is in the argument is settled at once, one whose value follows as soon
as something else comes. Groups are never unexpected, so nothing else can go wrong between
them. -/

def Given.acceptAll (given : Given) (groups : List Group) : Except Refusal Given :=
  groups.foldlM (fun given group => given.accept group.setting group.value) given

section

variable (pending : Pending) (given : Given) (rest : List Bytes)

private theorem read_option (setting : Setting) :
    read pending given (optionArgument setting :: rest) =
      match pending.settle given with
      | .error refusal => refuse refusal
      | .ok given => read (.waiting setting) given rest := by
  rw [read, Argument.ofBytes_option]
  simp only [Setting.ofOptionName?_optionName]
  cases pending.settle given <;> rfl

theorem read_attached (setting : Setting) (value : Bytes) :
    read pending given (attachedArgument setting value :: rest) =
      match pending.settle given with
      | .error refusal => refuse refusal
      | .ok given =>
          match given.accept setting value with
          | .error refusal => refuse refusal
          | .ok given => read .nothing given rest := by
  rw [read, Argument.ofBytes_attached]
  simp only [Setting.ofOptionName?_optionName]
  cases pending.settle given <;> rfl

private theorem read_detached (setting : Setting) {value : Bytes} (detachable : Detachable value) :
    read (.waiting setting) given (value :: rest) = read (.holding setting value) given rest := by
  rw [read, Argument.ofBytes_of_detachable detachable]

private theorem read_closing {closing : List Bytes}
    (closes : closing = [] ∨ closing = [separatorArgument]) :
    read pending given closing = orStop (pending.settle given) := by
  rcases closes with rfl | rfl
  · rw [read]
  · rw [read, Argument.ofBytes_separator, readRest]

end

theorem read_groups {groups : List Group} {closing : List Bytes}
    (spellable : ∀ group ∈ groups, group.Spellable)
    (closes : closing = [] ∨ closing = [separatorArgument]) (pending : Pending)
    (given : Given) :
    read pending given (groups.flatMap Group.arguments ++ closing) =
      orStop ((pending.settle given).bind fun given => given.acceptAll groups) := by
  induction groups generalizing pending given with
  | nil =>
      rw [List.flatMap_nil, List.nil_append, read_closing _ _ closes]
      cases pending.settle given <;> rfl
  | cons group groups induction =>
      rw [List.forall_mem_cons] at spellable
      rcases spellable with ⟨detachable, spellable⟩
      rcases group with ⟨setting, value, spelling⟩
      rw [List.flatMap_cons, List.append_assoc]
      cases spelling with
      | attached =>
          simp only [Group.arguments, List.singleton_append, read_attached]
          cases pending.settle given with
          | error refusal => rfl
          | ok given =>
              simp only [Except.bind, Given.acceptAll, List.foldlM_cons]
              cases given.accept setting value with
              | error refusal => rfl
              | ok given => exact induction spellable .nothing given
      | detached =>
          -- The value is only settled by what comes next, so it is left pending here.
          simp only [Group.arguments, List.cons_append, List.nil_append, read_option,
            read_detached _ _ _ (detachable rfl)]
          cases pending.settle given with
          | error refusal => rfl
          | ok given => exact induction spellable (.holding setting value) given

/-! ## Whatever is read was spelled by groups

The pending option is part of what has been spelled: without its value nothing more can
be read, and with it, it is a group. -/

namespace Pending

def arguments : Pending → List Bytes
  | .nothing => []
  | .waiting setting => [optionArgument setting]
  | .holding setting value => [optionArgument setting, value]

def groups : Pending → List Group
  | .holding setting value => [⟨setting, value, .detached⟩]
  | _ => []

def Spellable (pending : Pending) : Prop :=
  ∀ group ∈ pending.groups, group.Spellable

private theorem arguments_of_settle {pending : Pending} {given next : Given}
    (settled : pending.settle given = .ok next) :
    pending.arguments = pending.groups.flatMap Group.arguments := by
  cases pending with
  | nothing => rfl
  | waiting setting => cases settled
  | holding setting value => rfl

theorem spellable_nothing : nothing.Spellable := nofun

theorem spellable_waiting (setting : Setting) : (waiting setting).Spellable := nofun

theorem spellable_holding {setting : Setting} {value : Bytes} (detachable : Detachable value) :
    (holding setting value).Spellable := by
  intro group member _
  rw [List.mem_singleton.mp member]
  exact detachable

end Pending

theorem Spells.nil : Spells [] [] :=
  ⟨.inl rfl, by simp⟩

theorem Spells.closed : Spells [] [separatorArgument] :=
  ⟨.inr rfl, by simp⟩

theorem Spells.append {before groups : List Group} {arguments : List Bytes}
    (spellable : ∀ group ∈ before, group.Spellable) (spells : Spells groups arguments) :
    Spells (before ++ groups) (before.flatMap Group.arguments ++ arguments) := by
  refine ⟨?_, ?_⟩
  · rw [List.flatMap_append, List.append_assoc]
    exact spells.spelled.imp (congrArg _) (congrArg _)
  · intro group member
    rcases List.mem_append.mp member with member | member
    · exact spellable group member
    · exact spells.spellable group member

theorem Spells.attach {groups : List Group} {arguments : List Bytes}
    (spells : Spells groups arguments) (setting : Setting) (value : Bytes) :
    Spells (⟨setting, value, .attached⟩ :: groups)
      (attachedArgument setting value :: arguments) := by
  have spellable : ∀ group ∈ [(⟨setting, value, .attached⟩ : Group)], group.Spellable := by
    intro group member
    rw [List.mem_singleton.mp member]
    exact nofun
  exact spells.append spellable

private theorem orStop_eq_ok_iff {Value : Type} (outcome : Except Refusal Value) (value : Value) :
    orStop outcome = .ok value ↔ outcome = .ok value := by
  cases outcome <;> simp [orStop, refuse]

/-- Help, the version and arguments of no option end the reading. -/
theorem stopAfter_ne_ok {Value : Type} (stop : Stop) (pending : Pending) (given : Given)
    (value : Value) : stopAfter stop pending given ≠ .ok value := by
  unfold stopAfter
  cases pending.settle given <;> exact nofun

private theorem readShort_ne_ok {Value : Type} (flags : Bytes) (pending : Pending) (given : Given)
    (value : Value) : readShort flags pending given ≠ .ok value := by
  unfold readShort
  split
  · exact stopAfter_ne_ok _ _ _ _
  · exact stopAfter_ne_ok _ _ _ _
  · exact nofun
  · exact nofun

private theorem readFlag_ne_ok {Value : Type} (name : Bytes) (attached : Option Bytes)
    (pending : Pending) (given : Given) (value : Value) :
    readFlag name attached pending given ≠ .ok value := by
  unfold readFlag
  split
  · exact stopAfter_ne_ok _ _ _ _
  · exact nofun
  · exact nofun

private theorem readRest_eq_ok {pending : Pending} {given result : Given} {rest : List Bytes}
    (finished : readRest pending given rest = .ok result) :
    rest = [] ∧ pending.settle given = .ok result := by
  cases rest with
  | nil => exact ⟨rfl, (orStop_eq_ok_iff _ _).mp finished⟩
  | cons argument rest => cases finished

theorem spells_of_read {arguments : List Bytes} {pending : Pending} {given result : Given}
    (spellable : pending.Spellable) (finished : read pending given arguments = .ok result) :
    ∃ groups, Spells groups (pending.arguments ++ arguments) := by
  induction arguments generalizing pending given with
  | nil =>
      rw [read, orStop_eq_ok_iff] at finished
      rw [Pending.arguments_of_settle finished]
      exact ⟨_, Spells.nil.append spellable⟩
  | cons argument rest induction =>
      rw [read] at finished
      cases kind : Argument.ofBytes argument with
      | separator =>
          simp only [kind] at finished
          rcases readRest_eq_ok finished with ⟨rfl, settled⟩
          rw [Argument.eq_of_ofBytes_separator kind, Pending.arguments_of_settle settled]
          exact ⟨_, Spells.closed.append spellable⟩
      | short flags =>
          simp only [kind] at finished
          exact absurd finished (readShort_ne_ok _ _ _ _)
      | plain value =>
          rcases Argument.of_ofBytes_plain kind with ⟨rfl, detachable⟩
          simp only [kind] at finished
          cases pending with
          | waiting setting =>
              exact induction (Pending.spellable_holding detachable) finished
          | nothing => cases finished
          | holding setting held => cases finished
      | long name value =>
          have bytes := Argument.of_ofBytes_long kind
          simp only [kind] at finished
          cases found : Setting.ofOptionName? name with
          | none =>
              simp only [found] at finished
              exact absurd finished (readFlag_ne_ok _ _ _ _ _)
          | some setting =>
              rw [Setting.eq_of_ofOptionName? found] at bytes
              simp only [found] at finished
              cases settled : pending.settle given with
              | error refusal => simp [settled, refuse] at finished
              | ok next =>
                  rw [Pending.arguments_of_settle settled]
                  cases value with
                  | none =>
                      have isOption : argument = optionArgument setting := by
                        rw [bytes, optionArgument_eq, Option.elim_none, List.append_nil]
                      simp only [settled] at finished
                      rcases induction (Pending.spellable_waiting setting) finished with
                        ⟨groups, spells⟩
                      rw [isOption]
                      exact ⟨_, spells.append spellable⟩
                  | some value =>
                      have isAttached : argument = attachedArgument setting value := by
                        rw [bytes, attachedArgument_eq, Option.elim_some]
                      simp only [settled] at finished
                      cases accepted : next.accept setting value with
                      | error refusal => simp [accepted, refuse] at finished
                      | ok given =>
                          simp only [accepted] at finished
                          rcases induction Pending.spellable_nothing finished with
                            ⟨groups, spells⟩
                          rw [isAttached]
                          exact ⟨_, (spells.attach setting value).append spellable⟩

theorem read_of_spells {groups : List Group} {arguments : List Bytes}
    (spells : Spells groups arguments) :
    read .nothing .nothing arguments = orStop (Given.nothing.acceptAll groups) := by
  rcases spells.spelled with rfl | rfl
  · have reads := read_groups spells.spellable (.inl rfl) .nothing .nothing
    rwa [List.append_nil] at reads
  · exact read_groups spells.spellable (.inr rfl) .nothing .nothing

end MemoryProbe.CommandLine
