namespace MemoryProbe.Text

inductive DecimalError where
  | empty
  | invalidDigit
  | tooLarge
  | tooSmall
  deriving DecidableEq, Repr

def DecimalError.message : DecimalError → String
  | .empty => "cannot parse integer from empty string"
  | .invalidDigit => "invalid digit found in string"
  | .tooLarge => "number too large to fit in target type"
  | .tooSmall => "number too small to fit in target type"

namespace Decimal

/-- Digits are read from the left and the first fault decides: a character that is no
digit, or a value that has left the range. -/
def digits (limit : Nat) (excess : DecimalError) :
    Nat → List Char → Except DecimalError Nat
  | value, [] => .ok value
  | value, character :: rest =>
      if character.isDigit then
        let next := 10 * value + (character.toNat - '0'.toNat)
        if next ≤ limit then digits limit excess next rest else .error excess
      else .error .invalidDigit

/-- A number from zero to `limit`; a plus sign may precede it. -/
def natural (limit : Nat) : List Char → Except DecimalError Nat
  | [] => .error .empty
  | ['+'] => .error .invalidDigit
  | '+' :: rest => digits limit .tooLarge 0 rest
  | characters => digits limit .tooLarge 0 characters

/-- A number from `-limit - 1` to `limit`, with an optional sign. -/
def integer (limit : Nat) : List Char → Except DecimalError Int
  | ['-'] => .error .invalidDigit
  | '-' :: rest => (digits (limit + 1) .tooSmall 0 rest).map fun value => -(value : Int)
  | characters => (natural limit characters).map Int.ofNat

theorem isDigit_of_mem_toDigits {number : Nat} {character : Char}
    (member : character ∈ Nat.toDigits 10 number) : character.isDigit = true :=
  Nat.isDigit_of_mem_toDigits (by decide) (by decide) member

/-- A number is written in digits alone, so no other mark stands in it. -/
theorem not_mem_toDigits {mark : Char} (noDigit : mark.isDigit = false) (number : Nat) :
    mark ∉ Nat.toDigits 10 number := by
  intro member
  rw [isDigit_of_mem_toDigits member] at noDigit
  cases noDigit

end Decimal

end MemoryProbe.Text
