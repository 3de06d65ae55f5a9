import MemoryProbe.Proofs.ByteCount.SizeText
import MemoryProbe.Text.Decimal
import Mathlib.Tactic.Ring

namespace MemoryProbe.Size

open Text.Decimal (isDigit_of_mem_toDigits not_mem_toDigits)

def digits? (text : List Char) : Option Nat :=
  if !text.isEmpty && text.all Char.isDigit then some (Nat.ofDigitChars 10 text 0) else none

def decimal? (text : List Char) : Option ℚ :=
  match text.splitOn '.' with
  | [whole] => (digits? whole).map fun (number : Nat) => (number : ℚ)
  | [whole, fraction] =>
      (digits? whole).bind fun (number : Nat) =>
        (digits? fraction).map fun (part : Nat) =>
          (number + part / 10 ^ fraction.length : ℚ)
  | _ => none

def namedUnits : List (String × Nat) :=
  [("B", 1), ("KiB", 1024), ("MiB", 1024 ^ 2), ("GiB", 1024 ^ 3), ("TiB", 1024 ^ 4)]

/-- A size is read without knowing how it was made: a decimal number, a blank, and the
name of a unit. It stands for the exact product of the two. -/
def read? (text : String) : Option ℚ :=
  match text.toList.splitOn ' ' with
  | [amount, name] =>
      (decimal? amount).bind fun (number : ℚ) =>
        (namedUnits.lookup (String.ofList name)).map fun (bytes : Nat) => number * bytes
  | _ => none

/-- A number in decimal is read as that number. -/
theorem digits?_toDigits (number : Nat) : digits? (Nat.toDigits 10 number) = some number := by
  have someDigit : (!(Nat.toDigits 10 number).isEmpty) = true := by
    simp [Nat.toDigits_ne_nil]
  have allDigits : (Nat.toDigits 10 number).all Char.isDigit = true :=
    List.all_eq_true.mpr fun _ member => isDigit_of_mem_toDigits member
  rw [digits?, if_pos (Bool.and_eq_true_iff.mpr ⟨someDigit, allDigits⟩),
    Nat.ofDigitChars_ten_toDigits]

private theorem decimal?_whole (number : Nat) :
    decimal? (Nat.toDigits 10 number) = some (number : ℚ) := by
  rw [decimal?, List.splitOn_eq_singleton (not_mem_toDigits (by decide) number)]
  simp only [digits?_toDigits, Option.map_some]

/-- A number of tenths is read with its point. -/
theorem decimal?_tenths (tenths : Nat) :
    decimal? (Nat.toDigits 10 (tenths / 10) ++ '.' :: Nat.toDigits 10 (tenths % 10)) =
      some (tenths / 10 : ℚ) := by
  have oneDigit : (Nat.toDigits 10 (tenths % 10)).length = 1 := by
    rw [Nat.toDigits_of_lt_base (Nat.mod_lt _ (by decide))]
    rfl
  have parts : ((10 * (tenths / 10) + tenths % 10 : Nat) : ℚ) = tenths :=
    congrArg Nat.cast (Nat.div_add_mod tenths 10)
  rw [decimal?, List.splitOn_append_cons_self_of_not_mem (not_mem_toDigits (by decide) _),
    List.splitOn_eq_singleton (not_mem_toDigits (by decide) _)]
  simp only [digits?_toDigits, Option.bind_some, Option.map_some, oneDigit, pow_one,
    Option.some.injEq]
  rw [← parts]
  push_cast
  ring

private theorem lookup_name (unit : SizeUnit) : namedUnits.lookup unit.name = some unit.bytes := by
  cases unit <;> decide

private theorem not_mem_name (unit : SizeUnit) : ' ' ∉ unit.name.toList := by
  cases unit <;> decide

private theorem read?_of_spelled {text : String} {amount name : List Char} {number : ℚ}
    {bytes : Nat} (spelled : text.toList = amount ++ ' ' :: name)
    (decimal : decimal? amount = some number) (amountFree : ' ' ∉ amount)
    (named : namedUnits.lookup (String.ofList name) = some bytes) (nameFree : ' ' ∉ name) :
    read? text = some (number * bytes) := by
  rw [read?, spelled, List.splitOn_append_cons_self_of_not_mem amountFree,
    List.splitOn_eq_singleton nameFree]
  simp only [decimal, named, Option.bind_some, Option.map_some]

/-- What a size shows is its quantity. -/
theorem read?_text (size : Size) : read? size.text = some size.quantity := by
  cases size with
  | bytes count =>
      have spelled : (Size.bytes count).text.toList =
          Nat.toDigits 10 count ++ ' ' :: ['B'] := by
        simp [text]
      have named : namedUnits.lookup (String.ofList ['B']) = some 1 := by decide
      rw [read?_of_spelled spelled (decimal?_whole count) (not_mem_toDigits (by decide) count)
        named (by decide), Nat.cast_one, mul_one]
      rfl
  | scaled tenths unit =>
      have spelled : (Size.scaled tenths unit).text.toList =
          (Nat.toDigits 10 (tenths / 10) ++ '.' :: Nat.toDigits 10 (tenths % 10)) ++
            ' ' :: unit.name.toList := by
        simp [text]
      have amountFree : ' ' ∉
          Nat.toDigits 10 (tenths / 10) ++ '.' :: Nat.toDigits 10 (tenths % 10) := by
        simp [not_mem_toDigits]
      have named : namedUnits.lookup (String.ofList unit.name.toList) = some unit.bytes := by
        rw [String.ofList_toList, lookup_name]
      rw [read?_of_spelled spelled (decimal?_tenths tenths) amountFree named
        (not_mem_name unit), quantity, div_mul_eq_mul_div]

end MemoryProbe.Size
