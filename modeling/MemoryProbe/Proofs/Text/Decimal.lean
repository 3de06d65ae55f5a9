import MemoryProbe.Proofs.Utf8
import MemoryProbe.Text.Decimal
import Mathlib.Data.Nat.Digits.Defs
import Mathlib.Tactic.Ring

namespace MemoryProbe.Text.Decimal

/-! ## Numerals -/

def written (digits : List Char) : Nat :=
  Nat.ofDigits 10 (digits.reverse.map fun digit => digit.toNat - '0'.toNat)

/-- A numeral is one digit or more, and a plus sign may precede them. Leading zeros are
allowed, so a number has many numerals. -/
structure Numeral (digits : List Char) (number : Nat) : Prop where
  nonempty : digits ≠ []
  isDigit : ∀ digit ∈ digits, digit.isDigit = true
  written : written digits = number

def Writes (value : Bytes) (number : Nat) : Prop :=
  ∃ digits, Numeral digits number ∧
    (value = Bytes.ofChars digits ∨ value = Bytes.ofChars ('+' :: digits))

private theorem written_cons (digit : Char) (rest : List Char) :
    written (digit :: rest) =
      (digit.toNat - '0'.toNat) * 10 ^ rest.length + written rest := by
  rw [written, List.reverse_cons, List.map_append, Nat.ofDigits_append, List.length_map,
    List.length_reverse, List.map_singleton, Nat.ofDigits_singleton, Nat.add_comm,
    Nat.mul_comm]
  rfl

private theorem shift_written (start : Nat) (digit : Char) (rest : List Char) :
    start * 10 ^ (digit :: rest).length + written (digit :: rest) =
      (10 * start + (digit.toNat - '0'.toNat)) * 10 ^ rest.length + written rest := by
  rw [written_cons, List.length_cons]
  ring

/-- A number is refused as soon as it leaves the range. What has been read so far never
shrinks, so it is in the range at the end exactly if it never left it. -/
theorem digits_eq_ok_iff {limit start : Nat} (excess : DecimalError) (inRange : start ≤ limit)
    (characters : List Char) (number : Nat) :
    digits limit excess start characters = .ok number ↔
      (∀ character ∈ characters, character.isDigit = true) ∧
        start * 10 ^ characters.length + written characters = number ∧ number ≤ limit := by
  induction characters generalizing start with
  | nil =>
      simp only [digits, written, List.reverse_nil, List.map_nil, Nat.ofDigits_nil,
        List.length_nil, pow_zero, Nat.mul_one, Nat.add_zero, Except.ok.injEq]
      constructor
      · rintro rfl
        exact ⟨by simp, rfl, inRange⟩
      · exact fun reads => reads.2.1
  | cons character rest induction =>
      rw [digits, List.forall_mem_cons, shift_written]
      by_cases digit : character.isDigit = true
      · simp only [digit, if_true, true_and]
        by_cases small : 10 * start + (character.toNat - '0'.toNat) ≤ limit
        · rw [if_pos small, induction small]
        · rw [if_neg small]
          have grown := Nat.le_mul_of_pos_right (10 * start + (character.toNat - '0'.toNat))
            (Nat.pow_pos (n := rest.length) (show 0 < 10 by decide))
          constructor
          · intro refused
            cases refused
          · rintro ⟨-, sum, bounded⟩
            omega
      · simp only [digit, if_false, false_and, iff_false, Bool.false_eq_true]
        intro refused
        cases refused

theorem digits_zero_eq_ok_iff (limit : Nat) (excess : DecimalError)
    {characters : List Char} (nonempty : characters ≠ []) (number : Nat) :
    digits limit excess 0 characters = .ok number ↔
      number ≤ limit ∧ Numeral characters number := by
  rw [digits_eq_ok_iff excess (Nat.zero_le limit), Nat.zero_mul, Nat.zero_add]
  constructor
  · rintro ⟨isDigit, written, bounded⟩
    exact ⟨bounded, nonempty, isDigit, written⟩
  · rintro ⟨bounded, numeral⟩
    exact ⟨numeral.isDigit, numeral.written, bounded⟩

/-- A sign is no digit, so no numeral without a sign begins with one. -/
theorem Numeral.ne_cons {digits rest : List Char} {sign : Char} {number : Nat}
    (numeral : Numeral digits number) (isSign : sign.isDigit = false) :
    digits ≠ sign :: rest := by
  rintro rfl
  have isDigit := numeral.isDigit sign List.mem_cons_self
  rw [isSign] at isDigit
  cases isDigit

private theorem natural_of_ne_plus (limit : Nat) {first : Char} (unsigned : first ≠ '+')
    (rest : List Char) :
    natural limit (first :: rest) = digits limit .tooLarge 0 (first :: rest) := by
  unfold natural
  split <;> simp_all

theorem natural_eq_ok_iff (limit : Nat) (characters : List Char) (number : Nat) :
    natural limit characters = .ok number ↔
      number ≤ limit ∧ ∃ digits, Numeral digits number ∧
        (characters = digits ∨ characters = '+' :: digits) := by
  cases characters with
  | nil =>
      simp only [natural, reduceCtorEq, false_iff, or_false]
      rintro ⟨-, digits, numeral, rfl⟩
      exact numeral.nonempty rfl
  | cons first rest =>
      by_cases signed : first = '+'
      · subst signed
        cases rest with
        | nil =>
            simp only [natural, reduceCtorEq, false_iff]
            rintro ⟨-, digits, numeral, alone | signed⟩
            · exact numeral.ne_cons rfl alone.symm
            · exact numeral.nonempty (List.cons.inj signed).2.symm
        | cons second rest =>
            have unsigned : natural limit ('+' :: second :: rest) =
                digits limit .tooLarge 0 (second :: rest) := rfl
            rw [unsigned, digits_zero_eq_ok_iff limit _ (List.cons_ne_nil _ _)]
            refine and_congr_right fun _ => ⟨fun numeral => ⟨_, numeral, .inr rfl⟩, ?_⟩
            rintro ⟨digits, numeral, alone | signed⟩
            · exact absurd alone.symm (numeral.ne_cons rfl)
            · rwa [(List.cons.inj signed).2]
      · rw [natural_of_ne_plus limit signed,
          digits_zero_eq_ok_iff limit _ (List.cons_ne_nil _ _)]
        refine and_congr_right fun _ => ⟨fun numeral => ⟨_, numeral, .inl rfl⟩, ?_⟩
        rintro ⟨digits, numeral, rfl | found⟩
        · exact numeral
        · exact absurd (List.cons.inj found).1 signed

/-- What a minus sign precedes is never positive. -/
theorem integer_eq_ok_iff_of_pos (limit : Nat) (characters : List Char) {number : Nat}
    (positive : 0 < number) :
    integer limit characters = .ok (number : Int) ↔ natural limit characters = .ok number := by
  by_cases negative : ∃ rest, characters = '-' :: rest
  · rcases negative with ⟨rest, rfl⟩
    have unread : natural limit ('-' :: rest) = .error .invalidDigit := rfl
    simp only [unread, reduceCtorEq, iff_false]
    cases rest with
    | nil => simp [integer]
    | cons second rest =>
        have negated : integer limit ('-' :: second :: rest) =
            (digits (limit + 1) .tooSmall 0 (second :: rest)).map
              fun value => -(value : Int) := rfl
        rw [negated]
        cases digits (limit + 1) .tooSmall 0 (second :: rest) with
        | error fault => simp [Except.map]
        | ok value =>
            intro read
            have equal : -(value : Int) = number := Except.ok.inj read
            omega
  · have unsigned : integer limit characters = (natural limit characters).map Int.ofNat := by
      unfold integer
      split
      · simp at negative
      · simp at negative
      · rfl
    rw [unsigned]
    cases natural limit characters with
    | error fault => simp [Except.map]
    | ok value => simp [Except.map]

theorem writes_iff (value : Bytes) (limit number : Nat) (bounded : number ≤ limit) :
    Writes value number ↔
      ∃ characters, value.toChars? = some characters ∧
        natural limit characters = .ok number := by
  simp only [natural_eq_ok_iff, Bytes.toChars?_eq_some_iff, Writes]
  constructor
  · rintro ⟨digits, numeral, rfl | rfl⟩
    · exact ⟨_, rfl, bounded, digits, numeral, .inl rfl⟩
    · exact ⟨_, rfl, bounded, digits, numeral, .inr rfl⟩
  · rintro ⟨_, rfl, -, digits, numeral, rfl | rfl⟩
    · exact ⟨_, numeral, .inl rfl⟩
    · exact ⟨_, numeral, .inr rfl⟩

end MemoryProbe.Text.Decimal
