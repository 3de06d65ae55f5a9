namespace MemoryProbe

/-- Memory figures are 64-bit counts of bytes. Sums and products that leave the
range stop at its upper end, differences at zero. -/
abbrev ByteCount := UInt64

namespace ByteCount

def limit : Nat := UInt64.size - 1

def clamp (amount : Nat) : ByteCount :=
  UInt64.ofNat (min amount limit)

def plus (left right : ByteCount) : ByteCount :=
  clamp (left.toNat + right.toNat)

def minus (left right : ByteCount) : ByteCount :=
  clamp (left.toNat - right.toNat)

@[simp] theorem toNat_clamp (amount : Nat) :
    (clamp amount).toNat = min amount limit := by
  simp only [clamp, UInt64.toNat_ofNat']
  exact Nat.mod_eq_of_lt (by unfold limit UInt64.size; omega)

theorem toNat_le_limit (count : ByteCount) : count.toNat ≤ limit := by
  have bound := UInt64.toNat_lt count
  unfold limit UInt64.size
  omega

theorem toNat_plus (left right : ByteCount) :
    (left.plus right).toNat = min (left.toNat + right.toNat) limit :=
  toNat_clamp _

theorem toNat_minus (left right : ByteCount) :
    (left.minus right).toNat = left.toNat - right.toNat := by
  have bound := left.toNat_le_limit
  rw [minus, toNat_clamp]
  omega

def kibibyte : ByteCount := 1024
def mebibyte : ByteCount := 1024 * kibibyte
def gibibyte : ByteCount := 1024 * mebibyte
def tebibyte : ByteCount := 1024 * gibibyte

end ByteCount

end MemoryProbe
