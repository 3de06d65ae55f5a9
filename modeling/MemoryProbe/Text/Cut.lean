namespace MemoryProbe.Text

/-! ## Cuts counted in bytes

A text can be cut after so many bytes where a character ends there. -/

/-- The characters that fill exactly `count` bytes, if the text has that many and
none of them is cut. -/
def takeBytes (count : Nat) : List Char → Option (List Char)
  | [] => if count = 0 then some [] else none
  | character :: rest =>
      if count = 0 then some []
      else if character.utf8Size ≤ count then
        (takeBytes (count - character.utf8Size) rest).map (character :: ·)
      else none

/-- What follows the first `count` bytes. -/
def dropBytes (count : Nat) : List Char → Option (List Char)
  | [] => if count = 0 then some [] else none
  | character :: rest =>
      if count = 0 then some (character :: rest)
      else if character.utf8Size ≤ count then dropBytes (count - character.utf8Size) rest
      else none

/-- The characters from one byte up to another. -/
def betweenBytes (first last : Nat) (characters : List Char) : Option (List Char) :=
  (dropBytes first characters).bind (takeBytes (last - first))

end MemoryProbe.Text
