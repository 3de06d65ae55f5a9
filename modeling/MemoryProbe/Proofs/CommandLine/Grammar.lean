import MemoryProbe.Proofs.CommandLine.Given
import MemoryProbe.Proofs.CommandLine.Groups

namespace MemoryProbe.CommandLine

/-! ## What groups supply -/

def valueOf (groups : List Group) : Environment := fun setting =>
  (groups.find? (·.setting = setting)).map Group.value

def contents (groups : List Group) : List (Setting × Bytes) :=
  groups.map fun group => (group.setting, group.value)

def Group.Valid (group : Group) : Prop :=
  ∃ value, group.setting.Reads group.value value

theorem valueOf_cons_self (group : Group) (groups : List Group) :
    valueOf (group :: groups) group.setting = some group.value := by
  simp [valueOf]

theorem valueOf_cons_of_ne {group : Group} {setting : Setting}
    (different : setting ≠ group.setting) (groups : List Group) :
    valueOf (group :: groups) setting = valueOf groups setting := by
  simp [valueOf, different.symm]

theorem valueOf_eq_none_iff (groups : List Group) (setting : Setting) :
    valueOf groups setting = none ↔ setting ∉ groups.map Group.setting := by
  simp [valueOf]

theorem valueOf_eq_some_iff {groups : List Group} (once : (groups.map Group.setting).Nodup)
    (setting : Setting) (value : Bytes) :
    valueOf groups setting = some value ↔
      (setting, value) ∈ contents groups := by
  induction groups with
  | nil => simp [valueOf, contents]
  | cons group groups induction =>
      rw [List.map_cons, List.nodup_cons] at once
      rw [contents, List.map_cons, List.mem_cons, ← contents, ← induction once.2,
        Prod.mk.injEq]
      by_cases same : setting = group.setting
      · have absent := (valueOf_eq_none_iff groups _).mpr once.1
        subst same
        simp [valueOf_cons_self, absent, eq_comm]
      · simp [valueOf_cons_of_ne same, same]

/-- A value that a group supplies could as well be there already. -/
theorem filled_valueOf_update {group : Group} {groups : List Group}
    (absent : group.setting ∉ groups.map Group.setting) (environment : Environment) :
    Given.filled (valueOf groups)
        (Function.update environment group.setting (some group.value)) =
      Given.filled (valueOf (group :: groups)) environment := by
  funext setting
  unfold Given.filled
  by_cases same : setting = group.setting
  · subst same
    rw [(valueOf_eq_none_iff groups _).mpr absent, valueOf_cons_self, Function.update_self]
    rfl
  · rw [valueOf_cons_of_ne same, Function.update_of_ne same]

namespace Given

variable {given : Given} {supplied : Environment}

theorem Holds.acceptAll {groups : List Group} {result : Given} (holds : given.Holds supplied)
    (accepted : given.acceptAll groups = .ok result) :
    (groups.map Group.setting).Nodup ∧ (∀ group ∈ groups, supplied group.setting = none) ∧
      result.Holds (filled (valueOf groups) supplied) := by
  induction groups generalizing given supplied with
  | nil =>
      cases accepted
      exact ⟨List.nodup_nil, by simp, holds⟩
  | cons group groups induction =>
      rw [Given.acceptAll, List.foldlM_cons] at accepted
      cases first : given.accept group.setting group.value with
      | error refusal =>
          rw [first] at accepted
          cases accepted
      | ok next =>
          rw [first] at accepted
          rcases (accept_eq_ok_iff _ _ _ _).mp first with ⟨hasNot, value, reads, rfl⟩
          rcases induction (holds.insert reads) accepted with
            ⟨once, unsupplied, resultHolds⟩
          have different : ∀ later ∈ groups, later.setting ≠ group.setting := by
            intro later member same
            have missing := unsupplied later member
            rw [same, Function.update_self] at missing
            cases missing
          have absent : group.setting ∉ groups.map Group.setting := by
            simpa using different
          rw [filled_valueOf_update absent] at resultHolds
          refine ⟨List.nodup_cons.mpr ⟨absent, once⟩, ?_, resultHolds⟩
          rw [List.forall_mem_cons]
          constructor
          · rw [holds.has_eq_isSome] at hasNot
            simpa using hasNot
          · intro later member
            have missing := unsupplied later member
            rwa [Function.update_of_ne (different later member)] at missing

private theorem exists_acceptAll {groups : List Group} (once : (groups.map Group.setting).Nodup)
    (valid : ∀ group ∈ groups, group.Valid)
    (hasNot : ∀ group ∈ groups, given.has group.setting = false) :
    ∃ result, given.acceptAll groups = .ok result := by
  induction groups generalizing given with
  | nil => exact ⟨given, rfl⟩
  | cons group groups induction =>
      rw [List.map_cons, List.nodup_cons] at once
      rw [List.forall_mem_cons] at valid hasNot
      rcases valid with ⟨⟨value, reads⟩, valid⟩
      have first : given.accept group.setting group.value =
          .ok (given.insert group.setting value) :=
        (accept_eq_ok_iff _ _ _ _).mpr ⟨hasNot.1, value, reads, rfl⟩
      rw [Given.acceptAll, List.foldlM_cons, first]
      refine induction once.2 valid ?_
      intro later member
      have different : later.setting ≠ group.setting := by
        intro same
        exact once.1 (same ▸ List.mem_map_of_mem member)
      rw [has_eq_isSome, get_insert_of_ne given different, ← has_eq_isSome]
      exact hasNot.2 later member

end Given

/-! ## The options -/

namespace Options

/-- The options of a command line without arguments, in an empty environment. -/
def standard : Options := ⟨.text, 1, 1000, none⟩

def get (options : Options) : (setting : Setting) → Option setting.Value
  | .format => some options.format
  | .samples => some options.samples
  | .intervalMs => some options.intervalMs
  | .logFile => options.logFile

/-- Each option is the value supplied for it, or the standard one. -/
def Follows (options : Options) (supplied : Environment) : Prop :=
  ∀ setting,
    match supplied setting with
    | some bytes => ∃ value, setting.Reads bytes value ∧ options.get setting = some value
    | none => options.get setting = standard.get setting

private theorem ext_get {options other : Options}
    (same : ∀ setting, options.get setting = other.get setting) : options = other := by
  rcases options with ⟨format, samples, intervalMs, logFile⟩
  rcases other with ⟨otherFormat, otherSamples, otherIntervalMs, otherLogFile⟩
  cases same .format
  cases same .samples
  cases same .intervalMs
  cases same .logFile
  rfl

variable {options : Options} {supplied : Environment}

theorem Follows.unique {other : Options} (follows : options.Follows supplied)
    (otherFollows : other.Follows supplied) : options = other := by
  refine ext_get fun setting => ?_
  have here := follows setting
  have there := otherFollows setting
  cases found : supplied setting with
  | none =>
      simp only [found] at here there
      rw [here, there]
  | some bytes =>
      simp only [found] at here there
      rcases here with ⟨value, reads, here⟩
      rcases there with ⟨otherValue, otherReads, there⟩
      rw [here, there, reads.unique otherReads]

private theorem Follows.readable (follows : options.Follows supplied) (setting : Setting)
    (bytes : Bytes) (found : supplied setting = some bytes) :
    ∃ value, setting.Reads bytes value := by
  have here := follows setting
  simp only [found] at here
  rcases here with ⟨value, reads, -⟩
  exact ⟨value, reads⟩

end Options

private theorem Given.get_options (given : Given) (setting : Setting) :
    given.options.get setting = (given.get setting).or (Options.standard.get setting) := by
  rcases given with ⟨format, samples, intervalMs, logFile⟩
  cases setting with
  | format => cases format <;> rfl
  | samples => cases samples <;> rfl
  | intervalMs => cases intervalMs <;> rfl
  | logFile => cases logFile <;> rfl

private theorem Options.Follows.samples_pos {options : Options} {supplied : Environment}
    (follows : options.Follows supplied) : 1 ≤ options.samples := by
  have here := follows .samples
  cases found : supplied .samples with
  | none =>
      simp only [found] at here
      rw [show options.samples = 1 from Option.some.inj here]
  | some bytes =>
      simp only [found] at here
      rcases here with ⟨count, reads, here⟩
      rw [show options.samples = count from Option.some.inj here]
      exact reads.2.1

theorem Given.Holds.follows {given : Given} {supplied : Environment}
    (holds : given.Holds supplied) : given.options.Follows supplied := by
  intro setting
  have related := holds setting
  rw [get_options]
  generalize supplied setting = bytes, given.get setting = value at related ⊢
  cases related with
  | none => rfl
  | some reads => exact ⟨_, reads, rfl⟩

private theorem filled_valueOf_empty (groups : List Group) :
    Given.filled (valueOf groups) .empty = valueOf groups := by
  funext setting
  exact Option.or_none

theorem Options.Follows.valid {options : Options} {groups : List Group}
    {environment : Environment} (once : (groups.map Group.setting).Nodup)
    (follows : options.Follows (Given.filled (valueOf groups) environment)) :
    ∀ group ∈ groups, group.Valid := by
  intro group member
  refine follows.readable group.setting group.value ?_
  have supplied : valueOf groups group.setting = some group.value :=
    (valueOf_eq_some_iff once _ _).mpr (List.mem_map.mpr ⟨group, member, rfl⟩)
  rw [Given.filled, supplied, Option.some_or]

/-- What groups spell is accepted exactly if none of them gives an option again, and the
options are the values of the groups, then of the variables. -/
theorem Spells.parse_eq_ok_iff {groups : List Group} {arguments : List Bytes}
    (spells : Spells groups arguments) (environment : Environment) (options : Options) :
    parse environment arguments = .ok options ↔
      (groups.map Group.setting).Nodup ∧
        options.Follows (Given.filled (valueOf groups) environment) := by
  have outcome : ∀ {given result : Given}, Given.nothing.acceptAll groups = .ok given →
      Setting.all.foldlM (Given.fill environment) given = .ok result →
      (groups.map Group.setting).Nodup ∧
        result.options.Follows (Given.filled (valueOf groups) environment) := by
    intro given result accepted fills
    rcases Given.nothing_holds.acceptAll accepted with ⟨once, -, holds⟩
    rw [filled_valueOf_empty] at holds
    refine ⟨once, (holds.fillAll ?_ fills).follows⟩
    exact fun setting missing => absurd setting.mem_all missing
  unfold parse
  rw [read_of_spells spells]
  constructor
  · intro parsed
    cases accepted : Given.nothing.acceptAll groups with
    | error refusal => simp [accepted, orStop, refuse] at parsed
    | ok given =>
        cases fills : Setting.all.foldlM (Given.fill environment) given with
        | error refusal => simp [accepted, fills, orStop, refuse] at parsed
        | ok result =>
            simp only [accepted, fills, orStop, Except.ok.injEq] at parsed
            rw [← parsed]
            exact outcome accepted fills
  · rintro ⟨once, follows⟩
    rcases Given.exists_acceptAll once (follows.valid once)
      (fun group _ => Given.nothing_has group.setting) with ⟨given, accepted⟩
    have holds := (Given.nothing_holds.acceptAll accepted).2.2
    rw [filled_valueOf_empty] at holds
    rcases holds.exists_fillAll Setting.all follows.readable with ⟨result, fills⟩
    simp only [accepted, fills, orStop, Except.ok.injEq]
    exact (outcome accepted fills).2.unique follows

theorem spells_of_parse {environment : Environment} {arguments : List Bytes}
    {options : Options} (parsed : parse environment arguments = .ok options) :
    ∃ groups, Spells groups arguments := by
  unfold parse at parsed
  cases finished : read .nothing .nothing arguments with
  | error stop => simp [finished] at parsed
  | ok given => exact spells_of_read Pending.spellable_nothing finished

/-! ## The grammar -/

structure Grammatical (groups : List Group) (arguments : List Bytes) : Prop where
  spells : Spells groups arguments
  once : (groups.map Group.setting).Nodup
  valid : ∀ group ∈ groups, group.Valid

/-- Filling in nothing but the variables gives options for any values that can be read. -/
theorem exists_follows {supplied : Environment}
    (readable : ∀ setting bytes, supplied setting = some bytes →
      ∃ value, setting.Reads bytes value) : ∃ options : Options, options.Follows supplied := by
  have all : Given.filled .empty supplied = supplied := funext fun _ => Option.none_or
  rcases Given.nothing_holds.exists_fillAll Setting.all (by rwa [all]) with ⟨result, fills⟩
  have holds := Given.nothing_holds.fillAll
    (fun setting missing => absurd setting.mem_all missing) fills
  rw [all] at holds
  exact ⟨result.options, holds.follows⟩

theorem Grammatical.exists_parse {groups : List Group} {arguments : List Bytes}
    (grammatical : Grammatical groups arguments) :
    ∃ options, parse .empty arguments = .ok options ∧ options.Follows (valueOf groups) ∧
      1 ≤ options.samples := by
  have readable : ∀ setting bytes, valueOf groups setting = some bytes →
      ∃ value, setting.Reads bytes value := by
    intro setting bytes supplied
    rw [valueOf_eq_some_iff grammatical.once, contents, List.mem_map] at supplied
    rcases supplied with ⟨group, member, equal⟩
    cases equal
    exact grammatical.valid group member
  rcases exists_follows readable with ⟨options, follows⟩
  refine ⟨options, ?_, follows, follows.samples_pos⟩
  rw [grammatical.spells.parse_eq_ok_iff, filled_valueOf_empty]
  exact ⟨grammatical.once, follows⟩

theorem Spells.grammatical_of_parse {groups : List Group} {arguments : List Bytes}
    (spells : Spells groups arguments) {options : Options}
    (parsed : parse .empty arguments = .ok options) : Grammatical groups arguments := by
  rw [spells.parse_eq_ok_iff] at parsed
  exact ⟨spells, parsed.1, parsed.2.valid parsed.1⟩

private theorem nodup_of_perm {groups others : List Group}
    (same : (contents others).Perm (contents groups))
    (once : (groups.map Group.setting).Nodup) : (others.map Group.setting).Nodup := by
  have settings := same.map Prod.fst
  simp only [contents, List.map_map] at settings
  exact settings.nodup_iff.mpr once

private theorem valueOf_eq_of_perm {groups others : List Group}
    (same : (contents others).Perm (contents groups))
    (once : (groups.map Group.setting).Nodup) : valueOf others = valueOf groups := by
  funext setting
  refine Option.ext fun value => ?_
  rw [valueOf_eq_some_iff once, valueOf_eq_some_iff (nodup_of_perm same once)]
  exact same.mem_iff

/-- Neither the order of the groups nor the way they are spelled counts. -/
theorem Spells.parse_of_perm {groups others : List Group}
    {arguments otherArguments : List Bytes} (spells : Spells groups arguments)
    (spellsOther : Spells others otherArguments)
    (same : (contents others).Perm (contents groups)) {options : Options}
    (parsed : parse .empty arguments = .ok options) :
    parse .empty otherArguments = .ok options := by
  rw [spells.parse_eq_ok_iff] at parsed
  rw [spellsOther.parse_eq_ok_iff, valueOf_eq_of_perm same parsed.1]
  exact ⟨nodup_of_perm same parsed.1, parsed.2⟩

/-- In an empty environment a list of arguments is accepted exactly if groups spell it that
give no option twice and only values that can be read. The options are those values, or the
standard ones, with at least one sample, and do not depend on the order of the groups or on
how each is spelled. -/
theorem accepts_exactly_grammar (arguments : List Bytes) :
    ((∃ options, parse .empty arguments = .ok options) ↔
      ∃ groups, Grammatical groups arguments) ∧
    (∀ groups, Grammatical groups arguments →
      ∃ options, parse .empty arguments = .ok options ∧ options.Follows (valueOf groups) ∧
        1 ≤ options.samples) ∧
    ∀ groups others otherArguments, Spells groups arguments → Spells others otherArguments →
      (contents others).Perm (contents groups) →
      ∀ options, parse .empty otherArguments = .ok options ↔
        parse .empty arguments = .ok options := by
  refine ⟨⟨?_, ?_⟩, fun groups grammatical => grammatical.exists_parse, ?_⟩
  · rintro ⟨options, parsed⟩
    rcases spells_of_parse parsed with ⟨groups, spells⟩
    exact ⟨groups, spells.grammatical_of_parse parsed⟩
  · rintro ⟨groups, grammatical⟩
    rcases grammatical.exists_parse with ⟨options, parsed, -⟩
    exact ⟨options, parsed⟩
  · intro groups others otherArguments spells spellsOther same options
    exact ⟨spellsOther.parse_of_perm spells same.symm, spells.parse_of_perm spellsOther same⟩

/-- A single dash is a value, and so is a number with a sign and zeros before it. -/
example : parse .empty (["--log-file", "-", "--samples=+007", "--"].map Bytes.ofString) =
    .ok ⟨.text, 7, 1000, some [dash]⟩ := by decide +kernel

end MemoryProbe.CommandLine
