namespace MemoryProbe.Text

/-! ## Numbers with a point

Whether a text is a number in decimal notation: an optional sign, then a word for no
finite number or digits with at most one point, then perhaps an exponent. -/

namespace Fraction

def dropSign : List Char → List Char
  | '+' :: rest => rest
  | '-' :: rest => rest
  | text => text

def dropDigits (text : List Char) : List Char :=
  text.dropWhile Char.isDigit

def startsWithDigit (text : List Char) : Bool :=
  text.head?.any Char.isDigit

def words : List String := ["inf", "infinity", "nan"]

def isWord (text : List Char) : Bool :=
  words.contains (String.ofList (text.map Char.toLower))

def isExponent : List Char → Bool
  | [] => true
  | 'e' :: rest | 'E' :: rest =>
      startsWithDigit (dropSign rest) && (dropDigits (dropSign rest)).isEmpty
  | _ => false

/-- There is a digit before or after the point. -/
def isUnsigned (text : List Char) : Bool :=
  match dropDigits text with
  | '.' :: rest =>
      (startsWithDigit text || startsWithDigit rest) && isExponent (dropDigits rest)
  | rest => startsWithDigit text && isExponent rest

def isNumber (text : List Char) : Bool :=
  isWord (dropSign text) || isUnsigned (dropSign text)

end Fraction

end MemoryProbe.Text
