import MemoryProbe.CommandLine.Setting
import MemoryProbe.Proofs.Text.Decimal

namespace MemoryProbe.CommandLine

/-! ## Values

What the bytes given for a setting have to be, and the value they stand for. -/

def ReadsFormat (bytes : Bytes) (format : Report.Format) : Prop :=
  bytes = Bytes.ofString format.name

def ReadsSamples (bytes : Bytes) (count : Nat) : Prop :=
  Text.Decimal.Writes bytes count ∧ 1 ≤ count ∧ count ≤ maxSamples

def ReadsInterval (bytes : Bytes) (interval : UInt64) : Prop :=
  Text.Decimal.Writes bytes interval.toNat

def ReadsLogFile (bytes path : Bytes) : Prop :=
  path = bytes ∧ bytes ≠ []

theorem formatOf_eq_ok_iff (bytes : Bytes) (format : Report.Format) :
    formatOf bytes = .ok format ↔ ReadsFormat bytes format := by
  have different : Bytes.ofString Report.Format.json.name ≠
      Bytes.ofString Report.Format.text.name := by decide +kernel
  unfold formatOf ReadsFormat
  by_cases text : bytes = Bytes.ofString Report.Format.text.name
  · rw [if_pos text, text]
    cases format <;> simp [different.symm]
  · rw [if_neg text]
    by_cases json : bytes = Bytes.ofString Report.Format.json.name
    · rw [if_pos json, json]
      cases format <;> simp [different]
    · rw [if_neg json]
      cases format <;> split <;> simp [text, json]

/-- A number of samples is positive, so reading it with a sign changes nothing. -/
theorem samplesOf_eq_ok_iff (bytes : Bytes) (count : Nat) :
    samplesOf bytes = .ok count ↔ ReadsSamples bytes count := by
  unfold ReadsSamples
  constructor
  · intro read
    unfold samplesOf at read
    cases decoded : bytes.toChars? with
    | none => simp [decoded] at read
    | some characters =>
        cases signed : Text.Decimal.integer (UInt64.size / 2 - 1) characters with
        | error cause => simp [decoded, signed] at read
        | ok number =>
            simp only [decoded, signed] at read
            by_cases inRange : 1 ≤ number ∧ number ≤ maxSamples
            · rw [if_pos inRange] at read
              cases read
              have recovered : (number.toNat : Int) = number := by omega
              rw [← recovered, Text.Decimal.integer_eq_ok_iff_of_pos _ _ (by omega)] at signed
              have bounded := ((Text.Decimal.natural_eq_ok_iff _ _ _).mp signed).1
              rw [Text.Decimal.writes_iff bytes _ _ bounded]
              exact ⟨⟨characters, decoded, signed⟩, by omega, by omega⟩
            · simp [if_neg inRange] at read
  · rintro ⟨writes, positive, bounded⟩
    have inRange : count ≤ UInt64.size / 2 - 1 := Nat.le_trans bounded (by decide)
    rw [Text.Decimal.writes_iff bytes _ count inRange] at writes
    rcases writes with ⟨characters, decoded, unsigned⟩
    rw [← Text.Decimal.integer_eq_ok_iff_of_pos _ _ positive] at unsigned
    simp only [samplesOf, decoded, unsigned]
    rw [if_pos (by omega), Int.toNat_natCast]

theorem intervalOf_eq_ok_iff (bytes : Bytes) (interval : UInt64) :
    intervalOf bytes = .ok interval ↔ ReadsInterval bytes interval := by
  have inRange : interval.toNat ≤ UInt64.size - 1 := by
    have below := interval.toNat_lt
    unfold UInt64.size
    omega
  rw [ReadsInterval, Text.Decimal.writes_iff bytes _ interval.toNat inRange]
  unfold intervalOf
  cases bytes.toChars? with
  | none => simp
  | some characters =>
      simp only [Option.some.injEq, exists_eq_left']
      cases number : Text.Decimal.natural (UInt64.size - 1) characters with
      | error cause => simp
      | ok number =>
          have bounded := ((Text.Decimal.natural_eq_ok_iff _ _ _).mp ‹_›).1
          simp only [Except.ok.injEq, ← UInt64.toNat_inj, UInt64.toNat_ofNat']
          rw [Nat.mod_eq_of_lt (by unfold UInt64.size at bounded; omega)]

theorem logFileOf_eq_ok_iff (bytes path : Bytes) :
    logFileOf bytes = .ok path ↔ ReadsLogFile bytes path := by
  unfold logFileOf ReadsLogFile
  by_cases empty : bytes = []
  · simp [empty]
  · simp [empty, eq_comm]

end MemoryProbe.CommandLine
