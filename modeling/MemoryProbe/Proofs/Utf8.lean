import MemoryProbe.Bytes.Utf8

namespace MemoryProbe.Bytes

/-! ## Reading encoded text

Encoded text reads back as the characters it was made from. A byte is followed
through its number: the lead byte of a character fixes the range of its first
continuation byte, and each continuation byte gives six more bits. -/

private theorem takeOwed_continuation {low high : UInt8} {bits : Nat} (count value : Nat)
    (rest : Bytes) (small : bits < 64) (above : low.toNat ≤ bits + 128)
    (below : bits + 128 ≤ high.toNat) :
    takeOwed (count + 1) low high value (UInt8.ofNat (bits + 128) :: rest) =
      takeOwed count 0x80 0xBF (value * 64 + bits) rest := by
  have number : (UInt8.ofNat (bits + 128)).toNat = bits + 128 := by
    rw [UInt8.toNat_ofNat']
    omega
  have inRange : low ≤ UInt8.ofNat (bits + 128) ∧ UInt8.ofNat (bits + 128) ≤ high := by
    simp only [UInt8.le_iff_toNat_le, number]
    exact ⟨above, below⟩
  rw [takeOwed, if_pos inRange, number, Nat.add_sub_cancel]

private theorem ofLead_one {number : Nat} (small : number < 0x80) :
    Owed.ofLead (UInt8.ofNat number) = some ⟨0, 0x80, 0xBF, number⟩ := by
  have lead : (UInt8.ofNat number).toNat = number := by
    rw [UInt8.toNat_ofNat']
    omega
  simp [Owed.ofLead, UInt8.lt_iff_toNat_lt, lead, small]

private theorem ofLead_two {number : Nat} (above : 0xC2 ≤ number) (below : number < 0xE0) :
    Owed.ofLead (UInt8.ofNat number) = some ⟨1, 0x80, 0xBF, number - 0xC0⟩ := by
  have lead : (UInt8.ofNat number).toNat = number := by
    rw [UInt8.toNat_ofNat']
    omega
  have notOne : ¬number < 128 := by omega
  have notLower : ¬number < 194 := by omega
  simp [Owed.ofLead, UInt8.lt_iff_toNat_lt, lead, notOne, notLower, below]

private theorem ofLead_three {number : Nat} (above : 0xE0 ≤ number) (below : number < 0xF0) :
    Owed.ofLead (UInt8.ofNat number) =
      some ⟨2, if number = 0xE0 then 0xA0 else 0x80,
        if number = 0xED then 0x9F else 0xBF, number - 0xE0⟩ := by
  have lead : (UInt8.ofNat number).toNat = number := by
    rw [UInt8.toNat_ofNat']
    omega
  have notOne : ¬number < 128 := by omega
  have notLower : ¬number < 194 := by omega
  have notTwo : ¬number < 224 := by omega
  by_cases first : number = 0xE0
  · subst first
    rfl
  · by_cases surrogates : number = 0xED
    · subst surrogates
      rfl
    · simp [Owed.ofLead, UInt8.lt_iff_toNat_lt, ← UInt8.toNat_inj, lead, notOne, notLower,
        notTwo, first, surrogates, below]

private theorem ofLead_four {number : Nat} (above : 0xF0 ≤ number) (below : number < 0xF5) :
    Owed.ofLead (UInt8.ofNat number) =
      some ⟨3, if number = 0xF0 then 0x90 else 0x80,
        if number = 0xF4 then 0x8F else 0xBF, number - 0xF0⟩ := by
  have cases : number = 0xF0 ∨ number = 0xF1 ∨ number = 0xF2 ∨ number = 0xF3 ∨
      number = 0xF4 := by
    omega
  rcases cases with rfl | rfl | rfl | rfl | rfl <;> rfl

private theorem takeChar_one {value : Nat} (below : value ≤ 0x7F) (rest : Bytes) :
    takeChar (UInt8.ofNat value) rest = (some (Char.ofNat value), rest) := by
  rw [takeChar, ofLead_one (by omega)]
  rfl

private theorem takeChar_two {value : Nat} (above : 0x7F < value) (below : value ≤ 0x7FF)
    (rest : Bytes) :
    takeChar (UInt8.ofNat (value / 64 % 0x20 + 0xC0))
        (UInt8.ofNat (value % 0x40 + 0x80) :: rest) =
      (some (Char.ofNat value), rest) := by
  have assembled : (value / 64 % 32 + 192 - 192) * 64 + value % 64 = value := by omega
  rw [takeChar, ofLead_two (by omega) (by omega)]
  simp only
  rw [takeOwed_continuation _ _ _ (by omega) (by simp) (by simp; omega), assembled]
  rfl

private theorem takeChar_three {value : Nat} (above : 0x7FF < value) (below : value ≤ 0xFFFF)
    (valid : value < 0xD800 ∨ 0xDFFF < value) (rest : Bytes) :
    takeChar (UInt8.ofNat (value / 4096 % 0x10 + 0xE0))
        (UInt8.ofNat (value / 64 % 0x40 + 0x80) ::
          UInt8.ofNat (value % 0x40 + 0x80) :: rest) =
      (some (Char.ofNat value), rest) := by
  have assembled :
      ((value / 4096 % 16 + 224 - 224) * 64 + value / 64 % 64) * 64 + value % 64 = value := by
    omega
  rw [takeChar, ofLead_three (by omega) (by omega)]
  simp only
  rw [takeOwed_continuation _ _ _ (by omega) (by split <;> simp; omega)
      (by split <;> simp <;> omega),
    takeOwed_continuation _ _ _ (by omega) (by simp) (by simp; omega), assembled]
  rfl

private theorem takeChar_four {value : Nat} (above : 0xFFFF < value) (below : value < 0x110000)
    (rest : Bytes) :
    takeChar (UInt8.ofNat (value / 262144 % 0x08 + 0xF0))
        (UInt8.ofNat (value / 4096 % 0x40 + 0x80) ::
          UInt8.ofNat (value / 64 % 0x40 + 0x80) ::
            UInt8.ofNat (value % 0x40 + 0x80) :: rest) =
      (some (Char.ofNat value), rest) := by
  have assembled :
      (((value / 262144 % 8 + 240 - 240) * 64 + value / 4096 % 64) * 64 +
        value / 64 % 64) * 64 + value % 64 = value := by
    omega
  rw [takeChar, ofLead_four (by omega) (by omega)]
  simp only
  rw [takeOwed_continuation _ _ _ (by omega) (by split <;> simp; omega)
      (by split <;> simp <;> omega),
    takeOwed_continuation _ _ _ (by omega) (by simp) (by simp; omega),
    takeOwed_continuation _ _ _ (by omega) (by simp) (by simp; omega), assembled]
  rfl

/-- A character of any length is taken back whole, whatever follows it. -/
theorem takeChar_encode (character : Char) (rest : Bytes) :
    ∃ lead continuation,
      String.utf8EncodeChar character = lead :: continuation ∧
        takeChar lead (continuation ++ rest) = (some character, rest) := by
  have valid : character.val.toNat < 0xD800 ∨
      (0xDFFF < character.val.toNat ∧ character.val.toNat < 0x110000) :=
    character.valid
  have recovered : Char.ofNat character.val.toNat = character := Char.ofNat_toNat character
  unfold String.utf8EncodeChar
  generalize character.val.toNat = value at valid recovered ⊢
  rw [← recovered]
  by_cases one : value ≤ 0x7F
  · exact ⟨_, _, if_pos one, takeChar_one one rest⟩
  · by_cases two : value ≤ 0x7FF
    · exact ⟨_, _, by rw [if_neg one, if_pos two],
        takeChar_two (Nat.lt_of_not_le one) two rest⟩
    · by_cases three : value ≤ 0xFFFF
      · exact ⟨_, _, by rw [if_neg one, if_neg two, if_pos three],
          takeChar_three (Nat.lt_of_not_le two) three (by omega) rest⟩
      · exact ⟨_, _, by rw [if_neg one, if_neg two, if_neg three],
          takeChar_four (Nat.lt_of_not_le three) (by omega) rest⟩

/-! ## The round trip -/

theorem scan_ofChars_append (characters : List Char) (rest : Bytes) :
    scan (ofChars characters ++ rest) = characters.map some ++ scan rest := by
  induction characters with
  | nil => rfl
  | cons character characters induction =>
      rcases takeChar_encode character (ofChars characters ++ rest) with
        ⟨lead, continuation, encoded, taken⟩
      have split : ofChars (character :: characters) ++ rest =
          lead :: (continuation ++ (ofChars characters ++ rest)) := by
        rw [ofChars, List.flatMap_cons, encoded, ← ofChars]
        simp only [List.cons_append, List.append_assoc]
      rw [split, scan, taken, induction, List.map_cons, List.cons_append]

theorem scan_ofChars (characters : List Char) :
    scan (ofChars characters) = characters.map some := by
  have whole := scan_ofChars_append characters []
  rwa [scan, List.append_nil, List.append_nil] at whole

@[simp] theorem toChars?_ofChars (characters : List Char) :
    toChars? (ofChars characters) = some characters := by
  rw [toChars?, scan_ofChars]
  induction characters with
  | nil => rfl
  | cons character rest induction => simp [induction]

@[simp] theorem toString?_ofString (text : String) :
    toString? (ofString text) = some text := by
  rw [toString?, ofString, toChars?_ofChars, Option.map_some, String.ofList_toList]

/-! ## Text has one encoding

A character that is taken from bytes was encoded by them: the ranges of the continuation
bytes leave no second form of it, and every number that is put together is a character's. -/

private theorem encode_ofNat {value : Nat} (valid : value.isValidChar) :
    String.utf8EncodeChar (Char.ofNat value) =
      if value ≤ 0x7F then [UInt8.ofNat value]
      else if value ≤ 0x7FF then
        [UInt8.ofNat (value / 64 % 0x20 + 0xC0), UInt8.ofNat (value % 0x40 + 0x80)]
      else if value ≤ 0xFFFF then
        [UInt8.ofNat (value / 4096 % 0x10 + 0xE0), UInt8.ofNat (value / 64 % 0x40 + 0x80),
          UInt8.ofNat (value % 0x40 + 0x80)]
      else
        [UInt8.ofNat (value / 262144 % 0x08 + 0xF0), UInt8.ofNat (value / 4096 % 0x40 + 0x80),
          UInt8.ofNat (value / 64 % 0x40 + 0x80), UInt8.ofNat (value % 0x40 + 0x80)] := by
  have number : (Char.ofNat value).val.toNat = value := by
    rw [Char.ofNat, dif_pos valid]
    rfl
  unfold String.utf8EncodeChar
  rw [number]

private theorem of_takeOwed {count value : Nat} {low high : UInt8} {bytes left : Bytes}
    {character : Char} (above : 128 ≤ low.toNat) (below : high.toNat ≤ 191)
    (taken : takeOwed (count + 1) low high value bytes = (some character, left)) :
    ∃ bits rest, bits < 64 ∧ low.toNat ≤ bits + 128 ∧ bits + 128 ≤ high.toNat ∧
      bytes = UInt8.ofNat (bits + 128) :: rest ∧
      takeOwed count 0x80 0xBF (value * 64 + bits) rest = (some character, left) := by
  cases bytes with
  | nil => simp [takeOwed] at taken
  | cons byte rest =>
      rw [takeOwed] at taken
      by_cases inRange : low ≤ byte ∧ byte ≤ high
      · rw [if_pos inRange] at taken
        simp only [UInt8.le_iff_toNat_le] at inRange
        refine ⟨byte.toNat - 0x80, rest, by omega, by omega, by omega, ?_, taken⟩
        rw [Nat.sub_add_cancel (by omega), UInt8.ofNat_toNat]
      · simp [if_neg inRange] at taken

private theorem ofLead_none {number : Nat} (inRange : number < 0x100)
    (outside : 0x80 ≤ number ∧ number < 0xC2 ∨ 0xF5 ≤ number) :
    Owed.ofLead (UInt8.ofNat number) = none := by
  have lead : (UInt8.ofNat number).toNat = number := by
    rw [UInt8.toNat_ofNat']
    omega
  rcases outside with ⟨above, below⟩ | above
  · simp [Owed.ofLead, UInt8.lt_iff_toNat_lt, lead, Nat.not_lt.mpr above, below]
  · have notOne : ¬number < 128 := by omega
    have notLower : ¬number < 194 := by omega
    have notTwo : ¬number < 224 := by omega
    have notThree : ¬number < 240 := by omega
    have notFour : ¬number < 244 := by omega
    have notLead : number ≠ 224 ∧ number ≠ 237 ∧ number ≠ 240 ∧ number ≠ 244 := by omega
    simp [Owed.ofLead, UInt8.lt_iff_toNat_lt, ← UInt8.toNat_inj, lead, notOne, notLower,
      notTwo, notThree, notFour, notLead]

private theorem encode_two {lead bits : Nat} (above : 0xC2 ≤ lead) (below : lead < 0xE0)
    (small : bits < 64) :
    String.utf8EncodeChar (Char.ofNat ((lead - 0xC0) * 64 + bits)) =
      [UInt8.ofNat lead, UInt8.ofNat (bits + 128)] := by
  have first : ((lead - 0xC0) * 64 + bits) / 64 % 32 + 192 = lead := by omega
  have second : ((lead - 0xC0) * 64 + bits) % 64 = bits := by omega
  rw [encode_ofNat (.inl (by omega)), if_neg (by omega), if_pos (by omega), first, second]

private theorem encode_three {lead high low : Nat} (above : 0xE0 ≤ lead) (below : lead < 0xF0)
    (overlong : lead = 0xE0 → 32 ≤ high) (surrogate : lead = 0xED → high < 32)
    (smallHigh : high < 64) (smallLow : low < 64) :
    String.utf8EncodeChar (Char.ofNat (((lead - 0xE0) * 64 + high) * 64 + low)) =
      [UInt8.ofNat lead, UInt8.ofNat (high + 128), UInt8.ofNat (low + 128)] := by
  have first : (((lead - 0xE0) * 64 + high) * 64 + low) / 4096 % 16 + 224 = lead := by omega
  have second : (((lead - 0xE0) * 64 + high) * 64 + low) / 64 % 64 = high := by omega
  have third : (((lead - 0xE0) * 64 + high) * 64 + low) % 64 = low := by omega
  have valid : (((lead - 0xE0) * 64 + high) * 64 + low).isValidChar := by
    unfold Nat.isValidChar
    omega
  rw [encode_ofNat valid, if_neg (by omega), if_neg (by omega), if_pos (by omega), first,
    second, third]

private theorem encode_four {lead high middle low : Nat} (above : 0xF0 ≤ lead) (below : lead < 0xF5)
    (overlong : lead = 0xF0 → 16 ≤ high) (beyond : lead = 0xF4 → high < 16)
    (smallHigh : high < 64) (smallMiddle : middle < 64) (smallLow : low < 64) :
    String.utf8EncodeChar
        (Char.ofNat ((((lead - 0xF0) * 64 + high) * 64 + middle) * 64 + low)) =
      [UInt8.ofNat lead, UInt8.ofNat (high + 128), UInt8.ofNat (middle + 128),
        UInt8.ofNat (low + 128)] := by
  have first : ((((lead - 0xF0) * 64 + high) * 64 + middle) * 64 + low) / 262144 % 8 + 240 =
      lead := by
    omega
  have second : ((((lead - 0xF0) * 64 + high) * 64 + middle) * 64 + low) / 4096 % 64 =
      high := by
    omega
  have third : ((((lead - 0xF0) * 64 + high) * 64 + middle) * 64 + low) / 64 % 64 =
      middle := by
    omega
  have fourth : ((((lead - 0xF0) * 64 + high) * 64 + middle) * 64 + low) % 64 = low := by omega
  rw [encode_ofNat (.inr (by omega)), if_neg (by omega), if_neg (by omega),
    if_neg (by omega), first, second, third, fourth]

/-- The bits of a character are put together and taken apart again. -/
theorem encode_of_takeChar {lead : UInt8} {rest left : Bytes} {character : Char}
    (taken : takeChar lead rest = (some character, left)) :
    lead :: rest = String.utf8EncodeChar character ++ left := by
  have inRange := lead.toNat_lt
  rw [← UInt8.ofNat_toNat (x := lead)] at taken ⊢
  generalize lead.toNat = number at taken inRange ⊢
  by_cases one : number < 0x80
  · rw [takeChar, ofLead_one one] at taken
    simp only [takeOwed] at taken
    cases taken
    rw [encode_ofNat (.inl (by omega)), if_pos (by omega)]
    rfl
  by_cases two : 0xC2 ≤ number ∧ number < 0xE0
  · rw [takeChar, ofLead_two two.1 two.2] at taken
    simp only at taken
    rcases of_takeOwed (by decide) (by decide) taken with
      ⟨bits, rest, small, -, -, rfl, ended⟩
    cases ended
    rw [encode_two two.1 two.2 small]
    rfl
  by_cases three : 0xE0 ≤ number ∧ number < 0xF0
  · rw [takeChar, ofLead_three three.1 three.2] at taken
    simp only at taken
    rcases of_takeOwed (by split <;> decide) (by split <;> decide) taken with
      ⟨high, rest, smallHigh, overlong, surrogate, rfl, continued⟩
    rcases of_takeOwed (by decide) (by decide) continued with
      ⟨low, rest, smallLow, -, -, rfl, ended⟩
    cases ended
    rw [encode_three three.1 three.2 _ _ smallHigh smallLow]
    · rfl
    · rintro rfl
      simpa using overlong
    · rintro rfl
      simp at surrogate
      omega
  by_cases four : 0xF0 ≤ number ∧ number < 0xF5
  · rw [takeChar, ofLead_four four.1 four.2] at taken
    simp only at taken
    rcases of_takeOwed (by split <;> decide) (by split <;> decide) taken with
      ⟨high, rest, smallHigh, overlong, beyond, rfl, continued⟩
    rcases of_takeOwed (by decide) (by decide) continued with
      ⟨middle, rest, smallMiddle, -, -, rfl, furtherContinued⟩
    rcases of_takeOwed (by decide) (by decide) furtherContinued with
      ⟨low, rest, smallLow, -, -, rfl, ended⟩
    cases ended
    rw [encode_four four.1 four.2 _ _ smallHigh smallMiddle smallLow]
    · rfl
    · rintro rfl
      simpa using overlong
    · rintro rfl
      simp at beyond
      omega
  · rw [takeChar, ofLead_none inRange (by omega)] at taken
    cases taken

theorem ofChars_of_scan {bytes : Bytes} {characters : List Char}
    (scanned : scan bytes = characters.map some) : ofChars characters = bytes := by
  induction characters generalizing bytes with
  | nil =>
      cases bytes with
      | nil => rfl
      | cons lead rest => simp [scan] at scanned
  | cons character characters induction =>
      cases bytes with
      | nil => simp [scan] at scanned
      | cons lead rest =>
          rw [scan, List.map_cons] at scanned
          rcases List.cons.inj scanned with ⟨taken, scannedRest⟩
          have wholeTaken : takeChar lead rest = (some character, (takeChar lead rest).2) :=
            Prod.ext taken rfl
          rw [encode_of_takeChar wholeTaken, ← induction scannedRest]
          rfl

theorem toChars?_eq_some_iff (bytes : Bytes) (characters : List Char) :
    toChars? bytes = some characters ↔ bytes = ofChars characters := by
  constructor
  · intro decoded
    refine (ofChars_of_scan ?_).symm
    rw [toChars?] at decoded
    generalize bytes.scan = scanned at decoded ⊢
    induction scanned generalizing characters with
    | nil => simpa using decoded
    | cons first rest induction =>
        cases first with
        | none => simp at decoded
        | some character =>
            cases restDecoded : rest.mapM id with
            | none => simp [restDecoded] at decoded
            | some others =>
                simp only [List.mapM_cons, restDecoded] at decoded
                cases decoded
                rw [induction others restDecoded]
                rfl
  · rintro rfl
    exact toChars?_ofChars characters

theorem toString?_eq_some_iff (bytes : Bytes) (text : String) :
    toString? bytes = some text ↔ bytes = ofString text := by
  rw [toString?, Option.map_eq_some_iff]
  simp only [toChars?_eq_some_iff]
  constructor
  · rintro ⟨characters, rfl, rfl⟩
    rw [ofString, String.toList_ofList]
  · rintro rfl
    exact ⟨text.toList, rfl, String.ofList_toList⟩

theorem length_ofChars {characters : List Char}
    (narrow : ∀ character ∈ characters, character.utf8Size = 1) :
    (ofChars characters).length = characters.length := by
  induction characters with
  | nil => rfl
  | cons character rest induction =>
      rw [List.forall_mem_cons] at narrow
      rw [ofChars, List.flatMap_cons, List.length_append, String.length_utf8EncodeChar,
        narrow.1, ← ofChars, induction narrow.2, List.length_cons, Nat.add_comm]

theorem utf8Size_of_isHexDigit {digit : Char} (hexadecimal : digit.isHexDigit) :
    digit.utf8Size = 1 := by
  rw [Char.utf8Size_eq_one_iff]
  simp only [Char.isHexDigit, Char.isDigit, Bool.or_eq_true, Bool.and_eq_true,
    decide_eq_true_eq, UInt32.le_iff_toNat_le, ge_iff_le] at hexadecimal ⊢
  simp at hexadecimal ⊢
  omega

end MemoryProbe.Bytes
