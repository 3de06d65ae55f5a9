namespace MemoryProbe.Log

def daysIn (year month : Nat) : Nat :=
  if month = 2 then if 4 ∣ year ∧ (100 ∣ year → 400 ∣ year) then 29 else 28
  else if month ∈ [4, 6, 9, 11] then 30
  else 31

structure Date where
  year : Nat
  month : Nat
  day : Nat
  yearInRange : year ≤ 9999
  monthInRange : 1 ≤ month ∧ month ≤ 12
  dayInRange : 1 ≤ day ∧ day ≤ daysIn year month
  deriving DecidableEq, Repr

namespace Date

def ofParts? (year month day : Nat) : Option Date :=
  if inRange : year ≤ 9999 ∧ (1 ≤ month ∧ month ≤ 12) ∧ 1 ≤ day ∧ day ≤ daysIn year month then
    some ⟨year, month, day, inRange.1, inRange.2.1, inRange.2.2⟩
  else none

def filled (width number : Nat) : String :=
  String.ofList (List.leftpad width '0' (Nat.toDigits 10 number))

/-- Year, month and day are filled up with zeros. -/
def text (date : Date) : String :=
  filled 4 date.year ++ "-" ++ filled 2 date.month ++ "-" ++ filled 2 date.day

end Date

end MemoryProbe.Log
