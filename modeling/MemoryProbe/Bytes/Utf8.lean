namespace MemoryProbe

/-- Arguments, paths and environment values are byte strings; only some of them
are text. -/
abbrev Bytes := List UInt8

namespace Bytes

/-! ## Encoding -/

def ofChars (characters : List Char) : Bytes :=
  characters.flatMap String.utf8EncodeChar

def ofString (text : String) : Bytes :=
  ofChars text.toList

@[simp] theorem ofChars_nil : ofChars [] = [] := rfl

@[simp] theorem ofChars_append (left right : List Char) :
    ofChars (left ++ right) = ofChars left ++ ofChars right := by
  simp [ofChars]

theorem ofString_append (left right : String) :
    ofString (left ++ right) = ofString left ++ ofString right := by
  simp [ofString]

/-! ## Decoding -/

/-- A lead byte fixes how many continuation bytes are owed and the range of the first of
them; every later one lies in `80..BF`. The narrower first ranges keep out overlong
forms, surrogates and values above `10FFFF`. -/
structure Owed where
  count : Nat
  low : UInt8
  high : UInt8
  value : Nat

def Owed.ofLead (lead : UInt8) : Option Owed :=
  if lead < 0x80 then some ⟨0, 0x80, 0xBF, lead.toNat⟩
  else if lead < 0xC2 then none
  else if lead < 0xE0 then some ⟨1, 0x80, 0xBF, lead.toNat - 0xC0⟩
  else if lead = 0xE0 then some ⟨2, 0xA0, 0xBF, 0⟩
  else if lead = 0xED then some ⟨2, 0x80, 0x9F, 0xD⟩
  else if lead < 0xF0 then some ⟨2, 0x80, 0xBF, lead.toNat - 0xE0⟩
  else if lead = 0xF0 then some ⟨3, 0x90, 0xBF, 0⟩
  else if lead < 0xF4 then some ⟨3, 0x80, 0xBF, lead.toNat - 0xF0⟩
  else if lead = 0xF4 then some ⟨3, 0x80, 0x8F, 4⟩
  else none

/-- A character that breaks off is given up where it breaks off: the byte that
cannot continue it starts the next one. -/
def takeOwed : Nat → UInt8 → UInt8 → Nat → Bytes → Option Char × Bytes
  | 0, _, _, value, rest => (some (Char.ofNat value), rest)
  | _ + 1, _, _, _, [] => (none, [])
  | count + 1, low, high, value, byte :: rest =>
      if low ≤ byte ∧ byte ≤ high then
        takeOwed count 0x80 0xBF (value * 64 + (byte.toNat - 0x80)) rest
      else (none, byte :: rest)

def takeChar (lead : UInt8) (rest : Bytes) : Option Char × Bytes :=
  match Owed.ofLead lead with
  | none => (none, rest)
  | some owed => takeOwed owed.count owed.low owed.high owed.value rest

private theorem length_takeOwed_le (count : Nat) (low high : UInt8) (value : Nat)
    (bytes : Bytes) :
    (takeOwed count low high value bytes).2.length ≤ bytes.length := by
  induction count generalizing low high value bytes with
  | zero => simp [takeOwed]
  | succ count induction =>
      cases bytes with
      | nil => simp [takeOwed]
      | cons byte rest =>
          simp only [takeOwed]
          split
          · exact Nat.le_succ_of_le (induction _ _ _ rest)
          · exact Nat.le_refl _

theorem length_takeChar_le (lead : UInt8) (rest : Bytes) :
    (takeChar lead rest).2.length ≤ rest.length := by
  unfold takeChar
  split
  · exact Nat.le_refl _
  · exact length_takeOwed_le ..

/-- The characters of a byte string, `none` for each ill-formed part. -/
def scan : Bytes → List (Option Char)
  | [] => []
  | lead :: rest => (takeChar lead rest).1 :: scan (takeChar lead rest).2
termination_by bytes => bytes.length
decreasing_by exact Nat.lt_succ_of_le (length_takeChar_le lead rest)

def toChars? (bytes : Bytes) : Option (List Char) :=
  bytes.scan.mapM id

def toString? (bytes : Bytes) : Option String :=
  bytes.toChars?.map String.ofList

/-- Shown text stands in for ill-formed parts with the replacement character. -/
def display (bytes : Bytes) : String :=
  String.ofList (bytes.scan.map (·.getD '\uFFFD'))

end Bytes

end MemoryProbe
