import MemoryProbe.ByteCount.Size
import MemoryProbe.Proofs.ByteCount.Rounding
import Mathlib.Algebra.Order.Field.Rat
import Mathlib.Tactic.Linarith

namespace MemoryProbe

/-! ## Units -/

namespace SizeUnit

def bytes : SizeUnit → Nat
  | .kibi => ByteCount.kibibyte.toNat
  | .mebi => ByteCount.mebibyte.toNat
  | .gibi => ByteCount.gibibyte.toNat
  | .tebi => ByteCount.tebibyte.toNat

/-- Below the largest unit a size of 1023.95 is already too much: rounded to tenths it
would read `1024.0`. The unit is the first in which that does not happen. -/
def reached (amount : Nat) : SizeUnit :=
  ([.kibi, .mebi, .gibi].find? fun unit => 20 * amount < 20479 * unit.bytes).getD .tebi

theorem bytes_kibi : kibi.bytes = 1 <<< 10 := by decide
theorem bytes_mebi : mebi.bytes = 1 <<< 20 := by decide
theorem bytes_gibi : gibi.bytes = 1 <<< 30 := by decide
theorem bytes_tebi : tebi.bytes = 1 <<< 40 := by decide

theorem bytes_pos (unit : SizeUnit) : 0 < unit.bytes := by
  cases unit <;> decide

theorem reached_cases (amount : Nat) :
    (20 * amount < 20479 * kibi.bytes ∧ reached amount = .kibi) ∨
      (20479 * kibi.bytes ≤ 20 * amount ∧ 20 * amount < 20479 * mebi.bytes ∧
        reached amount = .mebi) ∨
      (20479 * mebi.bytes ≤ 20 * amount ∧ 20 * amount < 20479 * gibi.bytes ∧
        reached amount = .gibi) ∨
      (20479 * gibi.bytes ≤ 20 * amount ∧ reached amount = .tebi) := by
  unfold reached
  by_cases small : 20 * amount < 20479 * kibi.bytes
  · simp [small]
  by_cases medium : 20 * amount < 20479 * mebi.bytes
  · simp [small, medium, Nat.le_of_not_lt small]
  by_cases large : 20 * amount < 20479 * gibi.bytes
  · simp [small, medium, large, Nat.le_of_not_lt medium]
  · simp [small, medium, large, Nat.le_of_not_lt large]

theorem lt_reached {amount : Nat} (notLargest : reached amount ≠ .tebi) :
    20 * amount < 20479 * (reached amount).bytes := by
  rcases reached_cases amount with ⟨below, unit⟩ | ⟨_, below, unit⟩ | ⟨_, below, unit⟩ |
    ⟨_, unit⟩
  · rwa [unit]
  · rwa [unit]
  · rwa [unit]
  · exact absurd unit notLargest

/-- A unit that is reached by rounding is missed by less than a twentieth of it. -/
theorem reached_lt {amount : Nat} (large : 1024 ≤ amount) :
    20 * (reached amount).bytes < 20 * amount + (reached amount).bytes := by
  rcases reached_cases amount with ⟨_, unit⟩ | ⟨above, _, unit⟩ | ⟨above, _, unit⟩ |
    ⟨above, unit⟩
  · rw [unit, bytes_kibi]
    omega
  · rw [bytes_kibi] at above
    rw [unit, bytes_mebi]
    omega
  · rw [bytes_mebi] at above
    rw [unit, bytes_gibi]
    omega
  · rw [bytes_gibi] at above
    rw [unit, bytes_tebi]
    omega

end SizeUnit

/-! ## The choice of the unit

The unit is settled on a product that is rounded twice, to 53 digits and then to a whole
number. Neither changes the choice: a product that loses digits is far beyond the largest
one that is compared. -/

private theorem Binary64.le_round_tenfold_iff (amount : Nat) {scale : Nat} (small : scale ≤ 30) :
    10240 ≤ (tenfold ⟨amount, scale⟩).round ↔ 20479 * 1 <<< scale ≤ 20 * amount := by
  have positive := shift_pos scale
  have bounded : 1 <<< scale ≤ 1 <<< 30 := by
    simp only [Nat.one_shiftLeft]
    exact Nat.pow_le_pow_right (by decide) small
  have mantissa : (tenfold ⟨amount, scale⟩).mantissa = significant (10 * amount) := rfl
  have denominator : (tenfold ⟨amount, scale⟩).denominator = 1 <<< scale := rfl
  rw [round, mantissa, denominator, Nat.le_div_iff_mul_le (by omega)]
  rcases Nat.le_total (10 * amount) (1 <<< 53) with short | long
  · rw [significant_of_le short]
    omega
  · have kept := le_significant long
    omega

namespace Size

private theorem settle_cons (amount : Nat) {scale : Nat} {unit : SizeUnit}
    (sized : unit.bytes = 1 <<< scale) (small : scale ≤ 30) (next : SizeUnit)
    (larger : List SizeUnit) :
    settle ⟨amount, scale⟩ unit (next :: larger) =
      if 20 * amount < 20479 * unit.bytes then
        .scaled (roundQuotient (10 * amount) unit.bytes) unit
      else settle ⟨amount, scale + 10⟩ next larger := by
  rw [settle, sized]
  by_cases below : 20 * amount < 20479 * 1 <<< scale
  · rw [if_pos below, if_neg]
    · rfl
    · rwa [Binary64.le_round_tenfold_iff amount small, Nat.not_le]
  · rw [if_neg below, if_pos]
    · rfl
    · rwa [Binary64.le_round_tenfold_iff amount small, ← Nat.not_lt]

private theorem settle_nil (amount : Nat) {scale : Nat} {unit : SizeUnit}
    (sized : unit.bytes = 1 <<< scale) :
    settle ⟨amount, scale⟩ unit [] =
      .scaled (roundQuotient (10 * amount) unit.bytes) unit := by
  rw [sized]
  rfl

theorem settle_eq_reached (amount : Nat) :
    settle ⟨amount, 10⟩ .kibi [.mebi, .gibi, .tebi] =
      .scaled (roundQuotient (10 * amount) (SizeUnit.reached amount).bytes)
        (SizeUnit.reached amount) := by
  rw [settle_cons amount SizeUnit.bytes_kibi (by decide),
    settle_cons amount SizeUnit.bytes_mebi (by decide),
    settle_cons amount SizeUnit.bytes_gibi (by decide),
    settle_nil amount SizeUnit.bytes_tebi]
  by_cases small : 20 * amount < 20479 * SizeUnit.kibi.bytes
  · simp [SizeUnit.reached, small]
  by_cases medium : 20 * amount < 20479 * SizeUnit.mebi.bytes
  · simp [SizeUnit.reached, small, medium]
  by_cases large : 20 * amount < 20479 * SizeUnit.gibi.bytes
  · simp [SizeUnit.reached, small, medium, large]
  · simp [SizeUnit.reached, small, medium, large]

theorem ofBytes_of_lt {count : ByteCount} (small : count.toNat < 1024) :
    ofBytes count = .bytes count.toNat := by
  rw [ofBytes, if_pos]
  rwa [UInt64.lt_iff_toNat_lt]

theorem ofBytes_of_le {count : ByteCount} (large : 1024 ≤ count.toNat) :
    ofBytes count =
      .scaled
        (roundQuotient (10 * Binary64.significant count.toNat)
          (SizeUnit.reached (Binary64.significant count.toNat)).bytes)
        (SizeUnit.reached (Binary64.significant count.toNat)) := by
  rw [ofBytes, if_neg]
  · exact settle_eq_reached _
  · rwa [UInt64.lt_iff_toNat_lt, Nat.not_lt]

def quantity : Size → ℚ
  | .bytes count => count
  | .scaled tenths unit => tenths * unit.bytes / 10

end Size

theorem cast_dist (left right : Nat) : (Nat.dist left right : ℚ) = |(left : ℚ) - right| := by
  rcases Nat.le_total left right with below | above
  · rw [Nat.dist_eq_sub_of_le below, Nat.cast_sub below, abs_sub_comm, abs_of_nonneg]
    exact sub_nonneg.mpr (Nat.cast_le.mpr below)
  · rw [Nat.dist_eq_sub_of_le_right above, Nat.cast_sub above, abs_of_nonneg]
    exact sub_nonneg.mpr (Nat.cast_le.mpr above)

theorem Nearest.abs_sub_le {amount tenths : Nat} {unit : SizeUnit}
    (nearest : Nearest (10 * amount) unit.bytes tenths) :
    |(Size.scaled tenths unit).quantity - amount| ≤ unit.bytes / 20 := by
  have within : (2 * Nat.dist (10 * amount) (tenths * unit.bytes) : ℚ) ≤ unit.bytes := by
    exact_mod_cast nearest.within
  rw [cast_dist] at within
  push_cast at within
  have sides := abs_le.mp (show |(10 * amount - tenths * unit.bytes : ℚ)| ≤ unit.bytes / 2 by
    linarith)
  rw [Size.quantity, abs_le]
  constructor <;> linarith

namespace Size

/-! ## The figures of a size -/

/-- An amount to 53 digits, and the number of tenths of the unit it reaches. -/
structure Figures (count rounded tenths : Nat) : Prop where
  roundsTo : RoundsTo count rounded
  nearest : Nearest (10 * rounded) (SizeUnit.reached rounded).bytes tenths

namespace Figures

variable {rounded tenths : Nat}

theorem ofCount (count : Nat) :
    Figures count (Binary64.significant count)
      (roundQuotient (10 * Binary64.significant count)
        (SizeUnit.reached (Binary64.significant count)).bytes) :=
  ⟨Binary64.roundsTo_significant count, nearest_roundQuotient _ (SizeUnit.bytes_pos _)⟩

theorem unique {count otherRounded otherTenths : Nat} (figures : Figures count rounded tenths)
    (other : Figures count otherRounded otherTenths) :
    otherRounded = rounded ∧ otherTenths = tenths := by
  cases figures.roundsTo.unique other.roundsTo
  exact ⟨rfl, other.nearest.unique (SizeUnit.bytes_pos _) figures.nearest⟩

private theorem le_rounded {count : Nat} (figures : Figures count rounded tenths)
    (large : 1024 ≤ count) : 1024 ≤ rounded := by
  rw [figures.roundsTo.unique (Binary64.roundsTo_significant count)]
  rcases Nat.le_total count (1 <<< 53) with short | long
  · rwa [Binary64.significant_of_le short]
  · exact Nat.le_trans (by decide) (Binary64.le_significant long)

theorem le_tenths {count : Nat} (figures : Figures count rounded tenths)
    (large : 1024 ≤ count) : 10 ≤ tenths := by
  have reached := SizeUnit.reached_lt (figures.le_rounded large)
  exact figures.nearest.le_of_lt (by omega)

theorem tenths_le {count : Nat} (figures : Figures count rounded tenths)
    (notLargest : SizeUnit.reached rounded ≠ .tebi) : tenths ≤ 10239 := by
  have below := SizeUnit.lt_reached notLargest
  exact figures.nearest.le_of_gt (by omega)

private theorem rounded_of_le {count : Nat} (figures : Figures count rounded tenths)
    (short : count ≤ 1 <<< 53) : rounded = count := by
  rw [figures.roundsTo.unique (Binary64.roundsTo_significant count),
    Binary64.significant_of_le short]

private theorem abs_rounded_sub_le {count : ByteCount}
    (figures : Figures count.toNat rounded tenths) :
    |(rounded : ℚ) - count.toNat| ≤ if count.toNat ≤ 1 <<< 53 then 0 else 1024 := by
  by_cases short : count.toNat ≤ 1 <<< 53
  · rw [figures.rounded_of_le short, sub_self, abs_zero, if_pos short]
  · have close := Binary64.dist_significant_le (UInt64.toNat_lt count)
    rw [figures.roundsTo.unique (Binary64.roundsTo_significant _), if_neg short, abs_sub_comm,
      ← cast_dist]
    exact_mod_cast close

theorem abs_quantity_sub_le {count : ByteCount}
    (figures : Figures count.toNat rounded tenths) :
    |(scaled tenths (SizeUnit.reached rounded)).quantity - count.toNat| ≤
      (SizeUnit.reached rounded).bytes / 20 +
        if count.toNat ≤ 1 <<< 53 then 0 else 1024 :=
  (abs_sub_le _ (rounded : ℚ) _).trans
    (add_le_add figures.nearest.abs_sub_le figures.abs_rounded_sub_le)

end Figures

end Size

/-- A size is the one whole numbers give: the amount is rounded to 53 binary digits, the
unit is the first in which it stays below 1023.95, and its tenths are rounded once more.
The size then lies between `1.0` and `1023.9` of its unit, the largest apart, and is off
by at most half a tenth of the unit and what the amount lost beyond 53 digits. -/
theorem sizeText_eq_reference (count : ByteCount) :
    ∃ rounded tenths,
      Size.Figures count.toNat rounded tenths ∧
      (∀ otherRounded otherTenths, Size.Figures count.toNat otherRounded otherTenths →
        otherRounded = rounded ∧ otherTenths = tenths) ∧
      (count.toNat ≤ 1 <<< 53 → rounded = count.toNat) ∧
      (count.toNat < 1024 → count.sizeText = count.toNat.repr ++ " B") ∧
      (1024 ≤ count.toNat →
        count.sizeText = (tenths / 10).repr ++ "." ++ (tenths % 10).repr ++ " " ++
            (SizeUnit.reached rounded).name ∧
          10 ≤ tenths ∧ (SizeUnit.reached rounded ≠ .tebi → tenths ≤ 10239) ∧
          |(Size.scaled tenths (SizeUnit.reached rounded)).quantity - count.toNat| ≤
            (SizeUnit.reached rounded).bytes / 20 +
              if count.toNat ≤ 1 <<< 53 then 0 else 1024) := by
  have figures := Size.Figures.ofCount count.toNat
  refine ⟨_, _, figures, fun _ _ other => figures.unique other, figures.rounded_of_le, ?_, ?_⟩
  · intro small
    rw [ByteCount.sizeText, Size.ofBytes_of_lt small, Size.text]
  · intro large
    refine ⟨?_, figures.le_tenths large, figures.tenths_le, figures.abs_quantity_sub_le⟩
    rw [ByteCount.sizeText, Size.ofBytes_of_le large, Size.text]

/-- One byte less than a GiB is too much for 1023.9 MiB. -/
example : ByteCount.sizeText 1073741823 = "1.0 GiB" := by decide +kernel

end MemoryProbe
