import MemoryProbe.Proofs.CommandLine.Values
import Mathlib.Data.Option.Basic
import Mathlib.Logic.Function.Basic

namespace MemoryProbe.CommandLine

/-! ## Settings and their values

Each setting has values of its own type. The settings given so far are a family of such
values, some of them absent. -/

namespace Setting

def Value : Setting → Type
  | .format => Report.Format
  | .samples => Nat
  | .intervalMs => UInt64
  | .logFile => Bytes

def Reads : (setting : Setting) → Bytes → setting.Value → Prop
  | .format => ReadsFormat
  | .samples => ReadsSamples
  | .intervalMs => ReadsInterval
  | .logFile => ReadsLogFile

def read : (setting : Setting) → Bytes → Except Refusal setting.Value
  | .format => formatOf
  | .samples => samplesOf
  | .intervalMs => intervalOf
  | .logFile => logFileOf

theorem read_eq_ok_iff (setting : Setting) (bytes : Bytes) (value : setting.Value) :
    setting.read bytes = .ok value ↔ setting.Reads bytes value := by
  cases setting with
  | format => exact formatOf_eq_ok_iff bytes value
  | samples => exact samplesOf_eq_ok_iff bytes value
  | intervalMs => exact intervalOf_eq_ok_iff bytes value
  | logFile => exact logFileOf_eq_ok_iff bytes value

theorem Reads.unique {setting : Setting} {bytes : Bytes} {value other : setting.Value}
    (reads : setting.Reads bytes value) (readsOther : setting.Reads bytes other) :
    value = other := by
  rw [← read_eq_ok_iff] at reads readsOther
  exact Except.ok.inj (reads.symm.trans readsOther)

theorem mem_all (setting : Setting) : setting ∈ all := by
  cases setting <;> decide

end Setting

namespace Given

def get (given : Given) : (setting : Setting) → Option setting.Value
  | .format => given.format
  | .samples => given.samples
  | .intervalMs => given.intervalMs
  | .logFile => given.logFile

def insert (given : Given) : (setting : Setting) → setting.Value → Given
  | .format, value => { given with format := some value }
  | .samples, value => { given with samples := some value }
  | .intervalMs, value => { given with intervalMs := some value }
  | .logFile, value => { given with logFile := some value }

theorem get_insert_self (given : Given) (setting : Setting) (value : setting.Value) :
    (given.insert setting value).get setting = some value := by
  cases setting <;> rfl

theorem get_insert_of_ne (given : Given) {setting other : Setting} (different : other ≠ setting)
    (value : setting.Value) : (given.insert setting value).get other = given.get other := by
  cases setting <;> cases other <;> first | rfl | exact absurd rfl different

theorem has_eq_isSome (given : Given) (setting : Setting) :
    given.has setting = (given.get setting).isSome := by
  cases setting <;> rfl

private theorem put_eq_map (given : Given) (setting : Setting) (bytes : Bytes) :
    given.put setting bytes = (setting.read bytes).map (given.insert setting) := by
  cases setting <;> rfl

theorem put_eq_ok_iff (given : Given) (setting : Setting) (bytes : Bytes) (next : Given) :
    given.put setting bytes = .ok next ↔
      ∃ value, setting.Reads bytes value ∧ given.insert setting value = next := by
  simp only [put_eq_map, ← Setting.read_eq_ok_iff]
  cases setting.read bytes with
  | error refusal => simp [Except.map]
  | ok value => simp [Except.map]

theorem accept_eq_ok_iff (given : Given) (setting : Setting) (bytes : Bytes) (next : Given) :
    given.accept setting bytes = .ok next ↔
      given.has setting = false ∧
        ∃ value, setting.Reads bytes value ∧ given.insert setting value = next := by
  rw [accept]
  cases given.has setting with
  | false => simp [put_eq_ok_iff]
  | true => simp

private theorem fill_of_has (environment : Environment) {given : Given} {setting : Setting}
    (has : given.has setting = true) : given.fill environment setting = .ok given := by
  rw [fill, if_pos has]

private theorem fill_of_none {environment : Environment} {setting : Setting}
    (unset : environment setting = none) (given : Given) :
    given.fill environment setting = .ok given := by
  rw [fill, unset]
  split <;> rfl

private theorem fill_of_some {environment : Environment} {given : Given} {setting : Setting}
    {bytes : Bytes} (hasNot : given.has setting = false)
    (set : environment setting = some bytes) :
    given.fill environment setting = given.put setting bytes := by
  rw [fill, set, hasNot]
  rfl

/-! ## What the settings hold -/

/-- The bytes supplied for each setting, and nothing for a setting they are not supplied
for. -/
def Holds (given : Given) (supplied : Environment) : Prop :=
  ∀ setting, Option.Rel setting.Reads (supplied setting) (given.get setting)

variable {given : Given} {supplied : Environment}

theorem nothing_holds : nothing.Holds .empty := by
  intro setting
  cases setting <;> exact .none

theorem nothing_has (setting : Setting) : nothing.has setting = false := by
  cases setting <;> rfl

theorem Holds.has_eq_isSome (holds : given.Holds supplied) (setting : Setting) :
    given.has setting = (supplied setting).isSome := by
  have related := holds setting
  rw [Given.has_eq_isSome]
  generalize supplied setting = bytes, given.get setting = value at related ⊢
  cases related <;> rfl

theorem Holds.insert (holds : given.Holds supplied) {setting : Setting} {bytes : Bytes}
    {value : setting.Value} (reads : setting.Reads bytes value) :
    (given.insert setting value).Holds (Function.update supplied setting (some bytes)) := by
  intro other
  by_cases same : other = setting
  · subst same
    rw [Function.update_self, get_insert_self]
    exact .some reads
  · rw [Function.update_of_ne same, get_insert_of_ne given same]
    exact holds other

/-! ## Filling in from the environment -/

/-- A setting that is given keeps its value, whatever its variable says. -/
def filled (supplied environment : Environment) : Environment := fun setting =>
  (supplied setting).or (environment setting)

theorem Holds.fill {environment : Environment} {setting : Setting} {next : Given}
    (holds : given.Holds supplied) (fills : given.fill environment setting = .ok next) :
    next.Holds (Function.update supplied setting (filled supplied environment setting)) := by
  have has := holds.has_eq_isSome setting
  unfold filled
  cases found : supplied setting with
  | some bytes =>
      rw [found, Option.isSome_some] at has
      rw [fill_of_has environment has] at fills
      cases fills
      rw [Option.some_or, ← found, Function.update_eq_self]
      exact holds
  | none =>
      rw [Option.none_or]
      cases set : environment setting with
      | none =>
          rw [fill_of_none set] at fills
          cases fills
          rw [← found, Function.update_eq_self]
          exact holds
      | some bytes =>
          rw [found, Option.isSome_none] at has
          rw [fill_of_some has set, put_eq_ok_iff] at fills
          rcases fills with ⟨value, reads, rfl⟩
          exact holds.insert reads

theorem Holds.exists_fill {environment : Environment} {setting : Setting}
    (holds : given.Holds supplied)
    (readable : ∀ bytes, filled supplied environment setting = some bytes →
      ∃ value, setting.Reads bytes value) :
    ∃ next, given.fill environment setting = .ok next := by
  have has := holds.has_eq_isSome setting
  cases found : supplied setting with
  | some bytes =>
      rw [found, Option.isSome_some] at has
      exact ⟨given, fill_of_has environment has⟩
  | none =>
      cases set : environment setting with
      | none => exact ⟨given, fill_of_none set given⟩
      | some bytes =>
          rw [found, Option.isSome_none] at has
          rcases readable bytes (by rw [filled, found, set, Option.none_or]) with
            ⟨value, reads⟩
          refine ⟨given.insert setting value, ?_⟩
          rw [fill_of_some has set, put_eq_ok_iff]
          exact ⟨value, reads, rfl⟩

/-- Once a setting has been filled in, filling it in again changes nothing. -/
theorem filled_update (supplied environment : Environment) (setting : Setting) :
    filled (Function.update supplied setting (filled supplied environment setting))
      environment = filled supplied environment := by
  funext other
  by_cases same : other = setting
  · subst same
    rw [filled, Function.update_self, filled, Option.or_assoc, Option.or_self]
  · rw [filled, Function.update_of_ne same, filled]

theorem Holds.fillAll {environment : Environment} {settings : List Setting} {result : Given}
    (holds : given.Holds supplied)
    (others : ∀ setting, setting ∉ settings →
      supplied setting = filled supplied environment setting)
    (fills : settings.foldlM (Given.fill environment) given = .ok result) :
    result.Holds (filled supplied environment) := by
  induction settings generalizing given supplied with
  | nil =>
      cases fills
      have all : supplied = filled supplied environment := funext fun setting =>
        others setting List.not_mem_nil
      rwa [← all]
  | cons setting rest induction =>
      rw [List.foldlM_cons] at fills
      cases first : given.fill environment setting with
      | error refusal =>
          rw [first] at fills
          cases fills
      | ok next =>
          rw [first] at fills
          have nextHolds := holds.fill first
          rw [← filled_update supplied environment setting]
          refine induction nextHolds ?_ fills
          intro other notRest
          rw [filled_update]
          by_cases same : other = setting
          · rw [same, Function.update_self]
          · rw [Function.update_of_ne same]
            exact others other (by simp [same, notRest])

theorem Holds.exists_fillAll {environment : Environment} (settings : List Setting)
    (holds : given.Holds supplied)
    (readable : ∀ setting bytes, filled supplied environment setting = some bytes →
      ∃ value, setting.Reads bytes value) :
    ∃ result, settings.foldlM (Given.fill environment) given = .ok result := by
  induction settings generalizing given supplied with
  | nil => exact ⟨given, rfl⟩
  | cons setting rest induction =>
      rcases holds.exists_fill (readable setting) with ⟨next, first⟩
      have nextHolds := holds.fill first
      rw [List.foldlM_cons, first]
      exact induction nextHolds (by rwa [filled_update])

end Given

end MemoryProbe.CommandLine
