import MemoryProbe.Proofs.ByteCount.SizeOrder

namespace MemoryProbe

/-! ## Amounts close to a size

A size in range has at least the tenths of one whole unit, and below the largest unit
fewer than make up the next. An amount close to such a size reaches its unit. In the
largest one that leaves room for what an amount loses beyond 53 digits. -/

structure Size.InRange (tenths : Nat) (unit : SizeUnit) : Prop where
  least : 10 ≤ tenths
  most : unit ≠ .tebi → tenths ≤ 10239

structure Size.Close (amount tenths : Nat) (unit : SizeUnit) : Prop where
  within : Nat.dist (10 * amount) (tenths * unit.bytes) ≤ 10250
  closer : unit ≠ .tebi → Nat.dist (10 * amount) (tenths * unit.bytes) ≤ 10

namespace SizeUnit

variable {amount tenths : Nat} {unit : SizeUnit}

private theorem eq_of_bytes_eq {other : SizeUnit} (equal : unit.bytes = other.bytes) :
    unit = other := by
  have positive := unit.bytes_pos
  exact (eq_or_apart_of_le (Nat.le_of_eq equal)).resolve_right (by omega)

private theorem reached_le_of_close (inRange : Size.InRange tenths unit)
    (close : Size.Close amount tenths unit) : (reached amount).bytes ≤ unit.bytes := by
  by_cases largest : unit = .tebi
  · rw [largest]
    exact bytes_le_tebi _
  · have most := Nat.mul_le_mul_right unit.bytes (inRange.most largest)
    have near := dist_le_iff.mp (close.closer largest)
    have whole := unit.kibi_le_bytes
    rw [bytes_kibi] at whole
    exact reached_bytes_le (by omega)

private theorem le_reached_of_close (inRange : Size.InRange tenths unit)
    (close : Size.Close amount tenths unit) : unit.bytes ≤ (reached amount).bytes := by
  by_contra beyond
  have apart := apart_of_lt (Nat.lt_of_not_le beyond)
  have below := lt_reached (ne_tebi_of_later apart)
  have least := Nat.mul_le_mul_right unit.bytes inRange.least
  by_cases largest : unit = .tebi
  · have near := dist_le_iff.mp close.within
    rw [largest, bytes_tebi] at apart near least
    omega
  · have near := dist_le_iff.mp (close.closer largest)
    have whole := (reached amount).kibi_le_bytes
    rw [bytes_kibi] at whole
    omega

theorem reached_of_close (inRange : Size.InRange tenths unit)
    (close : Size.Close amount tenths unit) : reached amount = unit :=
  eq_of_bytes_eq (Nat.le_antisymm (reached_le_of_close inRange close)
    (le_reached_of_close inRange close))

end SizeUnit

namespace Size

variable {tenths : Nat} {unit : SizeUnit}

theorem Close.nearest {amount : Nat} (close : Close amount tenths unit) :
    Nearest (10 * amount) unit.bytes tenths := by
  apply Nearest.of_lt
  by_cases largest : unit = .tebi
  · have near := close.within
    rw [largest, SizeUnit.bytes_tebi] at near ⊢
    omega
  · have near := close.closer largest
    have whole := unit.kibi_le_bytes
    rw [SizeUnit.bytes_kibi] at whole
    omega

/-- An amount of more than 53 digits is close to sizes in the largest unit only. -/
theorem InRange.eq_tebi {amount : Nat} (inRange : InRange tenths unit)
    (long : 1 <<< 53 ≤ amount)
    (near : Nat.dist (10 * amount) (tenths * unit.bytes) ≤ 10) : unit = .tebi := by
  by_contra notLargest
  have most := Nat.mul_le_mul_right unit.bytes (inRange.most notLargest)
  have apart := (SizeUnit.eq_or_apart_of_le unit.bytes_le_tebi).resolve_left notLargest
  rw [SizeUnit.bytes_tebi] at apart
  rw [dist_le_iff] at near
  omega

private theorem InRange.close_significant {count : ByteCount} (inRange : InRange tenths unit)
    (near : Nat.dist (10 * count.toNat) (tenths * unit.bytes) ≤ 10) :
    Close (Binary64.significant count.toNat) tenths unit := by
  rcases Nat.le_total count.toNat (1 <<< 53) with short | long
  · rw [Binary64.significant_of_le short]
    exact ⟨near.trans (by decide), fun _ => near⟩
  · have largest := inRange.eq_tebi long near
    have lost := Binary64.dist_significant_le (UInt64.toNat_lt count)
    refine ⟨?_, fun notLargest => absurd largest notLargest⟩
    rw [dist_le_iff] at near lost ⊢
    omega

theorem InRange.ofBytes_eq {count : ByteCount} (inRange : InRange tenths unit)
    (large : 1024 ≤ count.toNat)
    (near : Nat.dist (10 * count.toNat) (tenths * unit.bytes) ≤ 10) :
    ofBytes count = .scaled tenths unit := by
  have close := inRange.close_significant near
  have rounded := (nearest_roundQuotient _ unit.bytes_pos).unique unit.bytes_pos close.nearest
  rw [ofBytes_of_le large, SizeUnit.reached_of_close inRange close, rounded]

/-! ## The amount nearest to a size

Tenths of a unit are no whole bytes, but never half way between two. The largest size is
that of one byte more than there are counts for. -/

theorem Figures.inRange {count rounded : Nat} (figures : Figures count rounded tenths)
    (large : 1024 ≤ count) : InRange tenths (SizeUnit.reached rounded) :=
  ⟨figures.le_tenths large, figures.tenths_le⟩

private theorem Figures.tenths_mul_bytes_le {count : ByteCount} {rounded : Nat}
    (figures : Figures count.toNat rounded tenths) :
    tenths * (SizeUnit.reached rounded).bytes ≤ 10 * (ByteCount.limit + 1) := by
  have largest := figures.tenths_mul_bytes_mono (Figures.ofCount ByteCount.limit) (by decide)
    count.toNat_le_limit
  have whole : roundQuotient (10 * Binary64.significant ByteCount.limit)
        (SizeUnit.reached (Binary64.significant ByteCount.limit)).bytes *
      (SizeUnit.reached (Binary64.significant ByteCount.limit)).bytes =
        10 * (ByteCount.limit + 1) := by
    decide +kernel
  rwa [whole] at largest

private theorem exists_nearest (tenths : Nat) (unit : SizeUnit) :
    ∃ nearest, Nat.dist (10 * nearest) (tenths * unit.bytes) ≤ 4 := by
  have rounds := (nearest_roundQuotient (tenths * unit.bytes) (show 0 < 10 by decide)).sides
  have even : 2 ∣ tenths * unit.bytes := by
    apply Dvd.dvd.mul_left
    cases unit <;> decide
  refine ⟨roundQuotient (tenths * unit.bytes) 10, ?_⟩
  rw [dist_le_iff]
  omega

private theorem abs_quantity_sub_lt {nearest : Nat}
    (near : Nat.dist (10 * nearest) (tenths * unit.bytes) ≤ 4) :
    |(scaled tenths unit).quantity - nearest| < 1 / 2 := by
  have apart : |((10 * nearest : Nat) : ℚ) - (tenths * unit.bytes : Nat)| ≤ 4 := by
    rw [← cast_dist]
    exact_mod_cast near
  push_cast at apart
  rcases abs_le.mp apart with ⟨above, below⟩
  rw [quantity, abs_lt]
  constructor <;> linarith

private theorem ofBytes_clamp_nearest {count : ByteCount} (large : 1024 ≤ count.toNat)
    {rounded nearest : Nat} (figures : Figures count.toNat rounded tenths)
    (near : Nat.dist (10 * nearest) (tenths * (SizeUnit.reached rounded).bytes) ≤ 4) :
    ofBytes (ByteCount.clamp nearest) = .scaled tenths (SizeUnit.reached rounded) := by
  have inRange := figures.inRange large
  have largest := figures.tenths_mul_bytes_le
  have least : 10 * 1024 ≤ tenths * (SizeUnit.reached rounded).bytes :=
    Nat.mul_le_mul inRange.least (SizeUnit.kibi_le_bytes _)
  have limited : 1024 ≤ ByteCount.limit := by decide
  rw [dist_le_iff] at near
  apply inRange.ofBytes_eq
  · rw [ByteCount.toNat_clamp]
    omega
  · rw [ByteCount.toNat_clamp, dist_le_iff]
    omega

theorem exists_nearest_ofBytes (count : ByteCount) :
    ∃ nearest : Nat, |(ofBytes count).quantity - nearest| < 1 / 2 ∧
      ofBytes (ByteCount.clamp nearest) = ofBytes count := by
  rcases Nat.lt_or_ge count.toNat 1024 with small | large
  · have same : ByteCount.clamp count.toNat = count := by
      rw [← UInt64.toNat_inj, ByteCount.toNat_clamp]
      exact Nat.min_eq_left count.toNat_le_limit
    refine ⟨count.toNat, ?_, by rw [same]⟩
    rw [ofBytes_of_lt small, quantity, sub_self, abs_zero]
    norm_num
  · have figures := Figures.ofCount count.toNat
    rcases exists_nearest (roundQuotient (10 * Binary64.significant count.toNat)
        (SizeUnit.reached (Binary64.significant count.toNat)).bytes)
      (SizeUnit.reached (Binary64.significant count.toNat)) with ⟨nearest, near⟩
    refine ⟨nearest, ?_, ?_⟩
    · rw [ofBytes_of_le large]
      exact abs_quantity_sub_lt near
    · rw [ofBytes_clamp_nearest large figures near, ofBytes_of_le large]

end Size

/-- A size that has been written reads back to an amount of the same size: of what the text
stands for take the nearest whole number, or the largest count where that is out of range.
No size lies half way between two numbers. -/
theorem sizeText_fixed_point (count : ByteCount) :
    ∃ (quantity : ℚ) (nearest : Nat),
      Size.read? count.sizeText = some quantity ∧ |quantity - nearest| < 1 / 2 ∧
        (ByteCount.clamp nearest).sizeText = count.sizeText := by
  rcases Size.exists_nearest_ofBytes count with ⟨nearest, close, same⟩
  exact ⟨_, nearest, Size.read?_text _, close, congrArg Size.text same⟩

/-- The largest amount reads as one byte more than itself. -/
example : ByteCount.sizeText 0xFFFFFFFFFFFFFFFF = "16777216.0 TiB" := by decide +kernel

end MemoryProbe
