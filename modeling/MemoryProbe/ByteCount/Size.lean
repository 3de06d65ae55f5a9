import MemoryProbe.ByteCount.Basic
import MemoryProbe.ByteCount.Binary64

namespace MemoryProbe

inductive SizeUnit where
  | kibi
  | mebi
  | gibi
  | tebi
  deriving DecidableEq, Repr

def SizeUnit.name : SizeUnit → String
  | .kibi => "KiB"
  | .mebi => "MiB"
  | .gibi => "GiB"
  | .tebi => "TiB"

/-- A size is a whole number of bytes below one KiB, and otherwise a number of tenths of
the largest binary unit it reaches. -/
inductive Size where
  | bytes (count : Nat)
  | scaled (tenths : Nat) (unit : SizeUnit)
  deriving DecidableEq, Repr

namespace Size

/-- The unit is settled after rounding: an amount that would read `1024.0` of one
unit reads `1.0` of the next, as long as there is a larger one. -/
def settle (number : Binary64) (unit : SizeUnit) : List SizeUnit → Size
  | [] => .scaled number.tenths unit
  | next :: larger =>
      if 10240 ≤ number.tenfold.round then settle (number.halve 10) next larger
      else .scaled number.tenths unit

def ofBytes (count : ByteCount) : Size :=
  if count < ByteCount.kibibyte then .bytes count.toNat
  else settle ((Binary64.ofNat count.toNat).halve 10) .kibi [.mebi, .gibi, .tebi]

def text : Size → String
  | .bytes count => count.repr ++ " B"
  | .scaled tenths unit =>
      (tenths / 10).repr ++ "." ++ (tenths % 10).repr ++ " " ++ unit.name

end Size

def ByteCount.sizeText (count : ByteCount) : String :=
  (Size.ofBytes count).text

end MemoryProbe
