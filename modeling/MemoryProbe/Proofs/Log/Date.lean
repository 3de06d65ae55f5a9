import MemoryProbe.Log.Date
import MemoryProbe.Proofs.Utf8

namespace MemoryProbe.Log.Date

private theorem length_filled {width number : Nat}
    (short : (Nat.toDigits 10 number).length ≤ width) :
    (filled width number).toList.length = width := by
  rw [filled, String.toList_ofList, List.length_leftpad]
  exact Nat.max_eq_left short

private theorem isHexDigit_of_mem_filled {width number : Nat} {character : Char}
    (member : character ∈ (filled width number).toList) : character.isHexDigit = true := by
  rw [filled, String.toList_ofList, List.leftpad, List.mem_append] at member
  rcases member with zero | digit
  · rw [List.eq_of_mem_replicate zero]
    rfl
  · have isDigit := Nat.isDigit_of_mem_toDigits (by decide) (by decide) digit
    rw [Char.isHexDigit, isDigit, Bool.true_or, Bool.true_or]

private theorem day_le (date : Date) : date.day ≤ 31 := by
  have bounded : daysIn date.year date.month ≤ 31 := by
    unfold daysIn
    split
    · split <;> decide
    · split <;> decide
  exact Nat.le_trans date.dayInRange.2 bounded

theorem length_text (date : Date) : (Bytes.ofString date.text).length = 10 := by
  have short {width number : Nat} (some : 0 < width) (small : number < 10 ^ width) :
      (filled width number).toList.length = width :=
    length_filled ((Nat.length_toDigits_le_iff (by decide) some).mpr small)
  have year : (filled 4 date.year).toList.length = 4 :=
    short (by decide) (Nat.lt_succ_of_le date.yearInRange)
  have month : (filled 2 date.month).toList.length = 2 :=
    short (by decide) (Nat.lt_of_le_of_lt date.monthInRange.2 (by decide))
  have day : (filled 2 date.day).toList.length = 2 :=
    short (by decide) (Nat.lt_of_le_of_lt date.day_le (by decide))
  have characters : date.text.toList = (filled 4 date.year).toList ++ '-' ::
      ((filled 2 date.month).toList ++ '-' :: (filled 2 date.day).toList) := by
    simp [text]
  rw [Bytes.ofString, Bytes.length_ofChars, characters]
  · simp [year, month, day]
  · intro character member
    rw [characters, List.mem_append, List.mem_cons, List.mem_append, List.mem_cons] at member
    rcases member with digit | rfl | digit | rfl | digit
    · exact Bytes.utf8Size_of_isHexDigit (isHexDigit_of_mem_filled digit)
    · rfl
    · exact Bytes.utf8Size_of_isHexDigit (isHexDigit_of_mem_filled digit)
    · rfl
    · exact Bytes.utf8Size_of_isHexDigit (isHexDigit_of_mem_filled digit)

def newYear : Date :=
  ⟨2026, 1, 1, by decide, by decide, by decide⟩

end MemoryProbe.Log.Date
