import MemoryProbe.Proofs.ByteCount.SizeReading

namespace MemoryProbe

/-! ## Units in order

A larger amount reaches the same unit or a later one, and each unit is 1024 of the one
before it. -/

namespace SizeUnit

theorem kibi_le_bytes (unit : SizeUnit) : kibi.bytes ≤ unit.bytes := by
  cases unit <;> decide

theorem bytes_le_tebi (unit : SizeUnit) : unit.bytes ≤ tebi.bytes := by
  cases unit <;> decide

theorem apart_of_lt {unit later : SizeUnit} (less : unit.bytes < later.bytes) :
    1024 * unit.bytes ≤ later.bytes := by
  cases unit <;> cases later <;> revert less <;> decide

theorem eq_or_apart_of_le {unit later : SizeUnit} (le : unit.bytes ≤ later.bytes) :
    unit = later ∨ 1024 * unit.bytes ≤ later.bytes := by
  rcases Nat.lt_or_eq_of_le le with less | equal
  · exact .inr (apart_of_lt less)
  · left
    cases unit <;> cases later <;> first | rfl | exact absurd equal (by decide)

/-- The unit that is reached is no later than any in which the amount stays small. -/
theorem reached_bytes_le {amount : Nat} {unit : SizeUnit}
    (below : 20 * amount < 20479 * unit.bytes) : (reached amount).bytes ≤ unit.bytes := by
  rcases reached_cases amount with ⟨_, reaches⟩ | ⟨above, _, reaches⟩ | ⟨above, _, reaches⟩ |
    ⟨above, reaches⟩
  · rw [reaches]
    exact unit.kibi_le_bytes
  · have less : kibi.bytes < unit.bytes := by omega
    rw [reaches]
    exact apart_of_lt less
  · have less : mebi.bytes < unit.bytes := by omega
    rw [reaches]
    exact apart_of_lt less
  · have less : gibi.bytes < unit.bytes := by omega
    rw [reaches]
    exact apart_of_lt less

theorem reached_mono {amount larger : Nat} (le : amount ≤ larger) :
    reached amount = reached larger ∨
      1024 * (reached amount).bytes ≤ (reached larger).bytes := by
  apply eq_or_apart_of_le
  by_cases largest : reached larger = .tebi
  · rw [largest]
    exact bytes_le_tebi _
  · have below := lt_reached largest
    exact reached_bytes_le (by omega)

theorem ne_tebi_of_later {unit later : SizeUnit} (apart : 1024 * unit.bytes ≤ later.bytes) :
    unit ≠ .tebi := by
  rintro rfl
  have small := later.bytes_le_tebi
  have positive := tebi.bytes_pos
  omega

end SizeUnit

namespace Size

variable {count larger rounded rounded' tenths tenths' : Nat}

/-! ## Quantities in order

Within a unit the tenths keep the order. Between two units the smaller quantity is below
1024 of its unit, and the larger one is at least the whole of the next. -/

theorem Figures.tenths_mul_bytes_mono (figures : Figures count rounded tenths)
    (figures' : Figures larger rounded' tenths') (large : 1024 ≤ larger)
    (le : count ≤ larger) :
    tenths * (SizeUnit.reached rounded).bytes ≤
      tenths' * (SizeUnit.reached rounded').bytes := by
  have ordered : rounded ≤ rounded' := figures.roundsTo.mono figures'.roundsTo le
  rcases SizeUnit.reached_mono ordered with same | apart
  · have nearest' := figures'.nearest
    rw [← same] at nearest' ⊢
    have least := figures.nearest.mono (SizeUnit.bytes_pos _) nearest'
      (Nat.mul_le_mul_left 10 ordered)
    exact Nat.mul_le_mul_right _ least
  · have most := figures.tenths_le (SizeUnit.ne_tebi_of_later apart)
    have least := figures'.le_tenths large
    calc tenths * (SizeUnit.reached rounded).bytes
        ≤ 10239 * (SizeUnit.reached rounded).bytes := Nat.mul_le_mul_right _ most
      _ ≤ 10 * (SizeUnit.reached rounded').bytes := by omega
      _ ≤ tenths' * (SizeUnit.reached rounded').bytes := Nat.mul_le_mul_right _ least

private theorem quantity_scaled (tenths : Nat) (unit : SizeUnit) :
    (scaled tenths unit).quantity = (tenths * unit.bytes : Nat) / 10 := by
  rw [quantity, Nat.cast_mul]

private theorem Figures.le_quantity (figures : Figures count rounded tenths)
    (large : 1024 ≤ count) :
    (1024 : ℚ) ≤ (scaled tenths (SizeUnit.reached rounded)).quantity := by
  have least : 10 * 1024 ≤ tenths * (SizeUnit.reached rounded).bytes :=
    Nat.mul_le_mul (figures.le_tenths large) (SizeUnit.kibi_le_bytes _)
  rw [quantity_scaled, le_div_iff₀ (by norm_num)]
  exact_mod_cast least

theorem quantity_ofBytes_mono {count larger : ByteCount} (le : count ≤ larger) :
    (ofBytes count).quantity ≤ (ofBytes larger).quantity := by
  rw [UInt64.le_iff_toNat_le] at le
  rcases Nat.lt_or_ge larger.toNat 1024 with small | large
  · rw [ofBytes_of_lt small, ofBytes_of_lt (Nat.lt_of_le_of_lt le small)]
    exact Nat.cast_le.mpr le
  · have figures := Figures.ofCount larger.toNat
    rw [ofBytes_of_le large]
    rcases Nat.lt_or_ge count.toNat 1024 with below | above
    · rw [ofBytes_of_lt below]
      have whole : (count.toNat : ℚ) ≤ 1024 := by exact_mod_cast Nat.le_of_lt below
      exact whole.trans (figures.le_quantity large)
    · have ordered := (Figures.ofCount count.toNat).tenths_mul_bytes_mono figures large le
      rw [ofBytes_of_le above, quantity_scaled, quantity_scaled]
      exact div_le_div_of_nonneg_right (Nat.cast_le.mpr ordered) (by norm_num)

end Size

/-- The size of a larger amount never reads as less: what the two texts stand for, exactly,
is in the order of the amounts, from bytes to the largest unit. -/
theorem sizeText_keeps_order (count larger : ByteCount) (le : count ≤ larger) :
    ∃ quantity quantity' : ℚ,
      Size.read? count.sizeText = some quantity ∧
        Size.read? larger.sizeText = some quantity' ∧ quantity ≤ quantity' :=
  ⟨_, _, Size.read?_text _, Size.read?_text _, Size.quantity_ofBytes_mono le⟩

/-- The last amount that reads in KiB, and the next. -/
theorem sizeText_keeps_order_last_kibi :
    (1048524 : ByteCount) ≤ 1048525 ∧
      (1048524 : ByteCount).sizeText = "1023.9 KiB" ∧
      (1048525 : ByteCount).sizeText = "1.0 MiB" ∧
      ∃ quantity quantity' : ℚ,
        Size.read? (1048524 : ByteCount).sizeText = some quantity ∧
          Size.read? (1048525 : ByteCount).sizeText = some quantity' ∧
          quantity ≤ quantity' :=
  ⟨by decide, by decide +kernel, by decide +kernel, sizeText_keeps_order _ _ (by decide)⟩

end MemoryProbe
