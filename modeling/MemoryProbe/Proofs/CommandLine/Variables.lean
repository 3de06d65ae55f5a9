import MemoryProbe.Proofs.CommandLine.Grammar

namespace MemoryProbe.CommandLine

/-! ## The options that arguments name

In arguments that are spelled by groups, an option is named where its group begins and
nowhere else. -/

namespace Argument

def named? (argument : Bytes) : Option Setting :=
  match ofBytes argument with
  | .long name _ => Setting.ofOptionName? name
  | _ => none

private theorem named?_option (setting : Setting) :
    named? (optionArgument setting) = some setting := by
  rw [named?, ofBytes_option]
  exact setting.ofOptionName?_optionName

private theorem named?_attached (setting : Setting) (value : Bytes) :
    named? (attachedArgument setting value) = some setting := by
  rw [named?, ofBytes_attached]
  exact setting.ofOptionName?_optionName

private theorem named?_of_detachable {value : Bytes} (detachable : Detachable value) :
    named? value = none := by
  rw [named?, ofBytes_of_detachable detachable]

end Argument

private theorem Group.Spellable.filterMap_named? {group : Group} (spellable : group.Spellable) :
    group.arguments.filterMap Argument.named? = [group.setting] := by
  rcases group with ⟨setting, value, spelling⟩
  cases spelling with
  | attached => simp [arguments, Argument.named?_attached]
  | detached =>
      simp [arguments, Argument.named?_option, Argument.named?_of_detachable (spellable rfl)]

private theorem filterMap_named?_flatMap {groups : List Group}
    (spellable : ∀ group ∈ groups, group.Spellable) :
    (groups.flatMap Group.arguments).filterMap Argument.named? = groups.map Group.setting := by
  induction groups with
  | nil => rfl
  | cons group groups induction =>
      rw [List.forall_mem_cons] at spellable
      rw [List.flatMap_cons, List.filterMap_append, spellable.1.filterMap_named?,
        induction spellable.2]
      rfl

theorem Spells.filterMap_named? {groups : List Group} {arguments : List Bytes}
    (spells : Spells groups arguments) :
    arguments.filterMap Argument.named? = groups.map Group.setting := by
  have inGroups := filterMap_named?_flatMap spells.spellable
  rcases spells.spelled with rfl | rfl
  · exact inGroups
  · rw [List.filterMap_append, inGroups]
    exact List.append_nil _

/-- Arguments have a group for an option when its arguments stand in a row among them. -/
def HasGroup (setting : Setting) (arguments : List Bytes) : Prop :=
  ∃ (before : List Bytes) (group : Group) (after : List Bytes),
    group.setting = setting ∧ group.Spellable ∧
      arguments = before ++ group.arguments ++ after

theorem Spells.hasGroup_iff {groups : List Group} {arguments : List Bytes}
    (spells : Spells groups arguments) (setting : Setting) :
    HasGroup setting arguments ↔ setting ∈ groups.map Group.setting := by
  constructor
  · rintro ⟨before, group, after, rfl, spellable, rfl⟩
    rw [← spells.filterMap_named?, List.filterMap_append, List.filterMap_append,
      spellable.filterMap_named?]
    simp
  · intro member
    rcases List.mem_map.mp member with ⟨group, inGroups, rfl⟩
    have spellable := spells.spellable group inGroups
    rcases List.append_of_mem inGroups with ⟨before, after, rfl⟩
    rcases spells.spelled with rfl | rfl
    · exact ⟨_, group, _, rfl, spellable, by
        rw [List.flatMap_append, List.flatMap_cons, List.append_assoc]⟩
    · exact ⟨_, group, _, rfl, spellable, by
        rw [List.flatMap_append, List.flatMap_cons, List.append_assoc, List.append_assoc,
          List.append_assoc]⟩

/-- A value for an option in front of the other arguments is taken as any group is, so
these still have to be spelled by groups. -/
theorem spells_of_parse_attached {environment : Environment} {setting : Setting}
    {value : Bytes} {arguments : List Bytes} {options : Options}
    (parsed : parse environment (attachedArgument setting value :: arguments) = .ok options) :
    ∃ groups, Spells groups arguments := by
  unfold parse at parsed
  rw [read_attached] at parsed
  simp only [Pending.settle] at parsed
  cases accepted : Given.nothing.accept setting value with
  | error refusal => simp [accepted, refuse] at parsed
  | ok given =>
      cases finished : read .nothing given arguments with
      | error stop => simp [accepted, finished] at parsed
      | ok result => exact spells_of_read Pending.spellable_nothing finished

/-! ## Variables

A variable only counts for an option that no group names, and then as a group would. -/

private theorem filled_valueOf_update_of_mem {groups : List Group} {setting : Setting}
    (member : setting ∈ groups.map Group.setting) (environment : Environment)
    (value : Option Bytes) :
    Given.filled (valueOf groups) (Function.update environment setting value) =
      Given.filled (valueOf groups) environment := by
  funext other
  unfold Given.filled
  by_cases same : other = setting
  · subst same
    cases found : valueOf groups other with
    | none => exact absurd member ((valueOf_eq_none_iff groups other).mp found)
    | some bytes => rw [Option.some_or, Option.some_or]
  · rw [Function.update_of_ne same]

section

variable {groups : List Group} {arguments : List Bytes}
  (spells : Spells groups arguments) {setting : Setting} (environment : Environment)
  (value : Bytes) (options : Options)

include spells

theorem Spells.parse_variable_of_not_mem (absent : setting ∉ groups.map Group.setting) :
    parse (Function.update environment setting (some value)) arguments = .ok options ↔
      parse (Function.update environment setting none)
        (attachedArgument setting value :: arguments) = .ok options := by
  have sameValues :
      Given.filled (valueOf groups) (Function.update environment setting (some value)) =
        Given.filled (valueOf (⟨setting, value, .attached⟩ :: groups))
          (Function.update environment setting none) := by
    rw [← filled_valueOf_update absent, Function.update_idem]
  rw [spells.parse_eq_ok_iff, (spells.attach setting value).parse_eq_ok_iff, sameValues,
    List.map_cons, List.nodup_cons, and_assoc]
  exact (and_iff_right absent).symm

theorem Spells.parse_variable_of_mem (member : setting ∈ groups.map Group.setting) :
    parse (Function.update environment setting (some value)) arguments = .ok options ↔
      parse (Function.update environment setting none) arguments = .ok options := by
  rw [spells.parse_eq_ok_iff, spells.parse_eq_ok_iff, filled_valueOf_update_of_mem member,
    filled_valueOf_update_of_mem member]

end

/-- The variable of an option means what the option itself would, in front of the arguments,
unless they have a group for it: then it makes no difference, readable or not. -/
theorem variable_stands_for_option (arguments : List Bytes) (environment : Environment)
    (setting : Setting) (value : Bytes) (options : Options) :
    (¬ HasGroup setting arguments →
      (parse (Function.update environment setting (some value)) arguments = .ok options ↔
        parse (Function.update environment setting none)
          (attachedArgument setting value :: arguments) = .ok options)) ∧
    (HasGroup setting arguments →
      (parse (Function.update environment setting (some value)) arguments = .ok options ↔
        parse (Function.update environment setting none) arguments = .ok options)) := by
  by_cases spelled : ∃ groups, Spells groups arguments
  · rcases spelled with ⟨groups, spells⟩
    rw [spells.hasGroup_iff]
    exact ⟨spells.parse_variable_of_not_mem environment value options,
      spells.parse_variable_of_mem environment value options⟩
  · have fails : ∀ environment, parse environment arguments ≠ .ok options :=
      fun environment parsed => spelled (spells_of_parse parsed)
    constructor
    · intro _
      exact iff_of_false (fails _) fun parsed => spelled (spells_of_parse_attached parsed)
    · intro _
      exact iff_of_false (fails _) (fails _)

/-- A variable that cannot be read does no harm to an option that is given. -/
example : parse (Function.update Environment.empty .intervalMs (some [dash]))
    (["--interval-ms=5"].map Bytes.ofString) = .ok ⟨.text, 1, 5, none⟩ := by decide +kernel

end MemoryProbe.CommandLine
