import MemoryProbe.ByteCount.Binary64
import Mathlib.Data.Nat.Dist

namespace MemoryProbe

/-! ## Nearest whole numbers -/

/-- A quotient is rounded to a whole number no further than half away, and of two such
numbers to the even one. That leaves one number. -/
structure Nearest (numerator denominator quotient : Nat) : Prop where
  within : 2 * Nat.dist numerator (quotient * denominator) ≤ denominator
  even : 2 * Nat.dist numerator (quotient * denominator) = denominator → quotient % 2 = 0

theorem dist_le_iff {left right bound : Nat} :
    Nat.dist left right ≤ bound ↔ left ≤ right + bound ∧ right ≤ left + bound := by
  unfold Nat.dist
  omega

namespace Nearest

variable {numerator denominator quotient bound : Nat}

theorem sides (nearest : Nearest numerator denominator quotient) :
    2 * numerator ≤ 2 * (quotient * denominator) + denominator ∧
      2 * (quotient * denominator) ≤ 2 * numerator + denominator := by
  have within := nearest.within
  unfold Nat.dist at within
  omega

theorem le_of_lt (nearest : Nearest numerator denominator quotient)
    (above : 2 * (bound * denominator) < 2 * numerator + denominator) : bound ≤ quotient := by
  by_contra beyond
  have apart : (quotient + 1) * denominator ≤ bound * denominator :=
    Nat.mul_le_mul_right _ (by omega)
  have sides := nearest.sides
  rw [Nat.add_one_mul] at apart
  omega

theorem le_of_gt (nearest : Nearest numerator denominator quotient)
    (below : 2 * numerator < 2 * (bound * denominator) + denominator) : quotient ≤ bound := by
  by_contra beyond
  have apart : (bound + 1) * denominator ≤ quotient * denominator :=
    Nat.mul_le_mul_right _ (by omega)
  have sides := nearest.sides
  rw [Nat.add_one_mul] at apart
  omega

/-- A larger numerator is not rounded to less. For equal ones the two numbers would be next
to each other, both half away, and one of them odd. -/
theorem mono {larger other : Nat} (nearest : Nearest numerator denominator quotient)
    (positive : 0 < denominator) (nearestOther : Nearest larger denominator other)
    (le : numerator ≤ larger) : quotient ≤ other := by
  have sides := nearest.sides
  rcases Nat.lt_or_eq_of_le le with less | rfl
  · exact nearestOther.le_of_lt (by omega)
  · by_contra beyond
    have sidesOther := nearestOther.sides
    have next : quotient ≤ other + 1 := nearest.le_of_gt (by
      rw [Nat.add_one_mul other]
      omega)
    have successor : quotient = other + 1 := by omega
    have even := nearest.even
    have evenOther := nearestOther.even
    rw [successor, Nat.add_one_mul other] at sides even
    unfold Nat.dist at even evenOther
    omega

theorem unique {other : Nat} (positive : 0 < denominator)
    (nearest : Nearest numerator denominator quotient)
    (nearestOther : Nearest numerator denominator other) : quotient = other :=
  Nat.le_antisymm (nearest.mono positive nearestOther le_rfl)
    (nearestOther.mono positive nearest le_rfl)

theorem of_lt (close : 2 * Nat.dist numerator (quotient * denominator) < denominator) :
    Nearest numerator denominator quotient :=
  ⟨Nat.le_of_lt close, fun tie => absurd tie (Nat.ne_of_lt close)⟩

/-- A number that divides is met exactly. -/
theorem exact (quotient : Nat) (positive : 0 < denominator) :
    Nearest (quotient * denominator) denominator quotient := by
  constructor <;> rw [Nat.dist_self] <;> omega

end Nearest

theorem nearest_roundQuotient (numerator : Nat) {denominator : Nat}
    (positive : 0 < denominator) :
    Nearest numerator denominator (roundQuotient numerator denominator) := by
  have divided := Nat.div_add_mod' numerator denominator
  have remainder := Nat.mod_lt numerator positive
  unfold roundQuotient
  by_cases low : 2 * (numerator % denominator) < denominator
  · simp only [low, if_true]
    constructor <;> unfold Nat.dist <;> omega
  · by_cases high : denominator < 2 * (numerator % denominator)
    · simp only [low, high, if_true, if_false]
      constructor <;> rw [Nat.add_one_mul (numerator / denominator)] <;> unfold Nat.dist <;> omega
    · -- Half way between two numbers; the parity of the lower one settles which.
      simp only [low, high, if_false]
      rcases Nat.mod_two_eq_zero_or_one (numerator / denominator) with even | odd
      · rw [even, Nat.add_zero]
        constructor <;> unfold Nat.dist <;> omega
      · rw [odd]
        constructor <;> rw [Nat.add_one_mul (numerator / denominator)] <;> unfold Nat.dist <;> omega

/-! ## Significant digits

Of the binary digits of an amount 53 count, from the first on. The last of them stands
in some place, and the amount is rounded to that place. -/

def LastPlace (amount place : Nat) : Prop :=
  amount < 1 <<< (place + 53) ∧ (place = 0 ∨ 1 <<< (place + 52) ≤ amount)

def RoundsTo (amount rounded : Nat) : Prop :=
  ∃ place quotient, LastPlace amount place ∧ Nearest amount (1 <<< place) quotient ∧
    rounded = quotient * 1 <<< place

namespace LastPlace

variable {amount place quotient : Nat}

theorem mono {larger other : Nat} (last : LastPlace amount place)
    (lastOther : LastPlace larger other) (le : amount ≤ larger) : place ≤ other := by
  rcases last.2 with zero | above
  · omega
  · have below := Nat.lt_of_le_of_lt (above.trans le) lastOther.1
    simp only [Nat.one_shiftLeft] at below
    have exponents := (Nat.pow_lt_pow_iff_right (by decide)).mp below
    omega

/-- What is kept of an amount has 53 digits, or is the first number with one more. -/
theorem quotient_le (last : LastPlace amount place)
    (nearest : Nearest amount (1 <<< place) quotient) : quotient ≤ 2 ^ 53 := by
  have below := last.1
  rw [Nat.one_shiftLeft] at nearest
  rw [Nat.one_shiftLeft, Nat.pow_add, Nat.mul_comm] at below
  exact nearest.le_of_gt (by omega)

private theorem le_quotient (last : LastPlace amount place) (positive : place ≠ 0)
    (nearest : Nearest amount (1 <<< place) quotient) : 2 ^ 52 ≤ quotient := by
  have above := last.2.resolve_left positive
  rw [Nat.one_shiftLeft] at nearest
  rw [Nat.one_shiftLeft, Nat.pow_add, Nat.mul_comm] at above
  have step := Nat.two_pow_pos place
  exact nearest.le_of_lt (by omega)

end LastPlace

private theorem lastPlace_log2 (amount : Nat) : LastPlace amount (amount.log2 - 52) := by
  have above : amount < 2 ^ (amount.log2 + 1) := Nat.lt_log2_self
  simp only [LastPlace, Nat.one_shiftLeft]
  by_cases short : amount.log2 ≤ 52
  · refine ⟨above.trans_le ?_, .inl (by omega)⟩
    exact Nat.pow_le_pow_right (by decide) (by omega)
  · have nonzero : amount ≠ 0 := by
      rintro rfl
      exact short (by simp)
    have exponents : amount.log2 - 52 + 53 = amount.log2 + 1 ∧
        amount.log2 - 52 + 52 = amount.log2 := by omega
    rw [exponents.1, exponents.2]
    exact ⟨above, .inr (Nat.log2_self_le nonzero)⟩

namespace Binary64

theorem shift_pos (place : Nat) : 0 < 1 <<< place := by
  rw [Nat.one_shiftLeft]
  exact Nat.two_pow_pos place

theorem roundsTo_significant (amount : Nat) : RoundsTo amount (significant amount) :=
  ⟨_, _, lastPlace_log2 amount, nearest_roundQuotient amount (shift_pos _), rfl⟩

end Binary64

/-- A larger amount is not rounded to less. Where it has its last digit in a later place,
all that the smaller one can be rounded to lies below. -/
theorem RoundsTo.mono {amount larger rounded other : Nat} (rounds : RoundsTo amount rounded)
    (roundsOther : RoundsTo larger other) (le : amount ≤ larger) : rounded ≤ other := by
  rcases rounds with ⟨place, quotient, last, nearest, rfl⟩
  rcases roundsOther with ⟨place', quotient', last', nearest', rfl⟩
  rcases Nat.lt_or_eq_of_le (last.mono last' le) with earlier | rfl
  · have small := last.quotient_le nearest
    have full := last'.le_quotient (by omega) nearest'
    have exponents : 53 + place = 52 + (place + 1) := by omega
    simp only [Nat.one_shiftLeft]
    calc quotient * 2 ^ place ≤ 2 ^ 53 * 2 ^ place := Nat.mul_le_mul_right _ small
      _ = 2 ^ 52 * 2 ^ (place + 1) := by rw [← Nat.pow_add, exponents, Nat.pow_add]
      _ ≤ quotient' * 2 ^ place' :=
          Nat.mul_le_mul full (Nat.pow_le_pow_right (by decide) earlier)
  · exact Nat.mul_le_mul_right _ (nearest.mono (Binary64.shift_pos place) nearest' le)

theorem RoundsTo.unique {amount rounded other : Nat} (rounds : RoundsTo amount rounded)
    (roundsOther : RoundsTo amount other) : rounded = other :=
  Nat.le_antisymm (rounds.mono roundsOther le_rfl) (roundsOther.mono rounds le_rfl)

/-! Amounts of up to 53 digits are kept, and so is the first one beyond. Larger amounts
stay as large as that. -/

namespace Binary64

theorem significant_mono {amount larger : Nat} (le : amount ≤ larger) :
    significant amount ≤ significant larger :=
  (roundsTo_significant amount).mono (roundsTo_significant larger) le

theorem significant_of_le {amount : Nat} (short : amount ≤ 1 <<< 53) :
    significant amount = amount := by
  refine (roundsTo_significant amount).unique ?_
  rcases Nat.lt_or_eq_of_le short with below | rfl
  · refine ⟨0, amount, ⟨below, .inl rfl⟩, ?_, by simp⟩
    simpa using Nearest.exact amount (shift_pos 0)
  · refine ⟨1, 1 <<< 52, ⟨by decide, .inr (Nat.le_refl _)⟩, ?_, by decide⟩
    exact Nearest.exact (1 <<< 52) (shift_pos 1)

theorem le_significant {amount : Nat} (long : 1 <<< 53 ≤ amount) :
    1 <<< 53 ≤ significant amount := by
  have kept := significant_mono long
  rwa [significant_of_le le_rfl] at kept

/-- Up to 64 digits the last place stands for at most 2048. -/
theorem dist_significant_le {amount : Nat} (small : amount < 1 <<< 64) :
    Nat.dist amount (significant amount) ≤ 1024 := by
  rcases roundsTo_significant amount with ⟨place, quotient, last, nearest, rounded⟩
  have bounded : place ≤ 11 := by
    rcases last.2 with zero | above
    · omega
    · have below := Nat.lt_of_le_of_lt above small
      simp only [Nat.one_shiftLeft] at below
      have exponents := (Nat.pow_lt_pow_iff_right (by decide)).mp below
      omega
  have step : 1 <<< place ≤ 2048 := by
    rw [Nat.one_shiftLeft]
    exact Nat.pow_le_pow_right (by decide : 0 < 2) bounded
  have within := nearest.within
  rw [← rounded] at within
  omega

end Binary64

end MemoryProbe
