import MemoryProbe.Proofs.Json.Value

namespace MemoryProbe.Json

/-! ## Tokens -/

/-- A quoted text or a bare word stands for a value, and each of the six punctuation
marks for itself. A bare word is a literal name or a whole number in its only spelling. -/
inductive Token where
  | scalar (value : Value)
  | openArray
  | closeArray
  | openObject
  | closeObject
  | comma
  | colon

def punctuation? : Char → Option Token
  | '[' => some .openArray
  | ']' => some .closeArray
  | '{' => some .openObject
  | '}' => some .closeObject
  | ',' => some .comma
  | ':' => some .colon
  | _ => none

def isBlank (character : Char) : Bool :=
  character = ' ' || character = '\t' || character = '\n' || character = '\r'

def isBare (character : Char) : Bool :=
  character.isAlphanum || character = '-' || character = '+' || character = '.'

def whole? (word : List Char) : Option Nat :=
  let number := Nat.ofDigitChars 10 word 0
  if word = Nat.toDigits 10 number then some number else none

def bare? : List Char → Option Value
  | ['n', 'u', 'l', 'l'] => some .null
  | ['t', 'r', 'u', 'e'] => some (.truth true)
  | ['f', 'a', 'l', 's', 'e'] => some (.truth false)
  | word => (whole? word).map .whole

/-! ## Places -/

inductive Frame where
  | item (before : List Value)
  | member (before : List (String × Value)) (name : String)

/-- What has been read of a value: the objects and arrays that are still open, innermost
first, with what they hold so far, latest first, and what may come next. -/
inductive Place where
  | value (outer : List Frame)
  | name (before : List (String × Value)) (outer : List Frame)
  | colon (before : List (String × Value)) (name : String) (outer : List Frame)
  | after (value : Value) (outer : List Frame)

def Place.take : Place → Token → Option Place
  | .value outer, .scalar read => some (.after read outer)
  | .value outer, .openArray => some (.value (.item [] :: outer))
  | .value outer, .openObject => some (.name [] outer)
  | .value (.item [] :: outer), .closeArray => some (.after (.array []) outer)
  | .name before outer, .scalar (.text read) => some (.colon before read outer)
  | .name [] outer, .closeObject => some (.after (.object []) outer)
  | .colon before read outer, .colon => some (.value (.member before read :: outer))
  | .after read (.item before :: outer), .comma =>
      some (.value (.item (read :: before) :: outer))
  | .after read (.item before :: outer), .closeArray =>
      some (.after (.array (read :: before).reverse) outer)
  | .after read (.member before field :: outer), .comma =>
      some (.name ((field, read) :: before) outer)
  | .after read (.member before field :: outer), .closeObject =>
      some (.after (.object ((field, read) :: before).reverse) outer)
  | _, _ => none

def Place.finished? : Place → Option Value
  | .after read [] => some read
  | _ => none

/-! ## Reading

One character at a time: between tokens, or inside one, whose characters are kept
latest first. A code has four hexadecimal digits; `owed` of them are still to come
after the next one. Codes that name no character are refused, so pairs of them that
would stand for one are not read. -/

inductive Within where
  | nothing
  | bare (word : List Char)
  | text (content : List Char)
  | escape (content : List Char)
  | code (content : List Char) (owed value : Nat)

structure Reader where
  place : Place
  within : Within

def hexValue? (character : Char) : Option Nat :=
  if character.isDigit then some (character.toNat - 48)
  else if 'a' ≤ character ∧ character ≤ 'f' then some (character.toNat - 87)
  else if 'A' ≤ character ∧ character ≤ 'F' then some (character.toNat - 55)
  else none

def codeChar? (code : Nat) : Option Char :=
  if code < 0xD800 ∨ 0xDFFF < code then some (Char.ofNat code) else none

namespace Reader

def start : Reader := ⟨.value [], .nothing⟩

/-- The place reached once a pending bare word counts as complete. -/
def settled? : Reader → Option Place
  | ⟨place, .nothing⟩ => some place
  | ⟨place, .bare word⟩ => (bare? word.reverse).bind fun value => place.take (.scalar value)
  | _ => none

def begin (place : Place) (character : Char) : Option Reader :=
  if isBlank character then some ⟨place, .nothing⟩
  else if character = '"' then some ⟨place, .text []⟩
  else if isBare character then some ⟨place, .bare [character]⟩
  else ((punctuation? character).bind place.take).map (⟨·, .nothing⟩)

def inText (place : Place) (content : List Char) (character : Char) : Option Reader :=
  if character = '"' then
    (place.take (.scalar (.text (String.ofList content.reverse)))).map (⟨·, .nothing⟩)
  else if character = '\\' then some ⟨place, .escape content⟩
  else if character.toNat < 32 then none
  else some ⟨place, .text (character :: content)⟩

def inEscape (place : Place) (content : List Char) (character : Char) : Option Reader :=
  if character = 'u' then some ⟨place, .code content 3 0⟩
  else (unescape? character).map fun meant => ⟨place, .text (meant :: content)⟩

def inCode (place : Place) (content : List Char) (owed value : Nat) (character : Char) :
    Option Reader :=
  (hexValue? character).bind fun digit =>
    match owed with
    | 0 => (codeChar? (16 * value + digit)).map fun meant => ⟨place, .text (meant :: content)⟩
    | owed + 1 => some ⟨place, .code content owed (16 * value + digit)⟩

def step (reader : Reader) (character : Char) : Option Reader :=
  match reader.within with
  | .nothing => begin reader.place character
  | .bare word =>
      if isBare character then some ⟨reader.place, .bare (character :: word)⟩
      else reader.settled?.bind (begin · character)
  | .text content => inText reader.place content character
  | .escape content => inEscape reader.place content character
  | .code content owed value => inCode reader.place content owed value character

def run (reader : Reader) (text : List Char) : Option Reader :=
  text.foldlM step reader

end Reader

def read (text : List Char) : Option Value :=
  (Reader.start.run text).bind fun reader => reader.settled?.bind Place.finished?

end MemoryProbe.Json
