import MemoryProbe.Bytes.Utf8

namespace MemoryProbe.Git

/-! ## Wildcard patterns -/

/-- `?` stands for one byte and `*` for any number of them; a set in brackets stands for
one of its bytes, and a backslash takes the next byte for itself. In a pattern for
paths, wildcards stop at slashes, but two stars that fill a place between slashes cross
them, and such a place with its slash may be missing. -/
inductive Glob where
  | byte (value : UInt8)
  | anyByte
  | star (crosses : Bool)
  | folders
  | oneOf (negated : Bool) (ranges : List (UInt8 × UInt8))
  | never
  deriving DecidableEq, Repr

namespace Glob

def slash : UInt8 := 47
def backslash : UInt8 := 92
def colon : UInt8 := 58
def bracket : UInt8 := 91
def bracketEnd : UInt8 := 93

def code (character : Char) : UInt8 :=
  UInt8.ofNat character.toNat

def range (first last : Char) : UInt8 × UInt8 :=
  (code first, code last)

/-! ## Sets -/

def namedSets : List (String × List (UInt8 × UInt8)) :=
  [("alpha", [range 'A' 'Z', range 'a' 'z']),
    ("digit", [range '0' '9']),
    ("alnum", [range 'A' 'Z', range 'a' 'z', range '0' '9']),
    ("upper", [range 'A' 'Z']),
    ("lower", [range 'a' 'z']),
    ("xdigit", [range 'A' 'F', range 'a' 'f', range '0' '9']),
    ("blank", [range ' ' ' ', range '\t' '\t']),
    ("space", [range ' ' ' ', (9, 13)]),
    ("cntrl", [(0, 31), (127, 127)]),
    ("graph", [(33, 126)]),
    ("print", [(32, 126)]),
    ("punct", [(33, 47), (58, 64), (91, 96), (123, 126)])]

def namedSet? (name : Bytes) : Option (List (UInt8 × UInt8)) :=
  (namedSets.find? fun entry => Bytes.ofString entry.1 = name).map (·.2)

/-- The next member of a set: its ranges, what it leaves for a range to start from,
and what follows. A dash makes a range of what is left and the byte after it. -/
structure Member where
  ranges : List (UInt8 × UInt8)
  left : Option UInt8
  after : Bytes

def Member.single (value : UInt8) (after : Bytes) : Member :=
  ⟨[(value, value)], some value, after⟩

def dashMember? (first : UInt8) : Bytes → Option Member
  | [92] => none
  | 92 :: last :: after => some ⟨[(first, last)], none, after⟩
  | last :: after =>
      if last = bracketEnd then some (.single (code '-') (last :: after))
      else some ⟨[(first, last)], none, after⟩
  | [] => none

/-- What follows `[:` is a name when a colon comes right before the next closing
bracket; otherwise the bracket stands for itself. -/
def namedMember? (after : Bytes) : Option Member :=
  let name := after.takeWhile (· ≠ bracketEnd)
  match after.dropWhile (· ≠ bracketEnd) with
  | [] => none
  | _ :: rest =>
      if name.getLast? = some colon then
        (namedSet? name.dropLast).map fun ranges => ⟨ranges, none, rest⟩
      else some (.single bracket (colon :: after))

def member? (left : Option UInt8) : Bytes → Option Member
  | [] => none
  | [92] => none
  | 92 :: value :: after => some (.single value after)
  | 45 :: after =>
      match left with
      | some first => dashMember? first after
      | none => some (.single (code '-') after)
  | 91 :: 58 :: after => namedMember? after
  | value :: after => some (.single value after)

/-- The ranges of a set and what follows its bracket. A closing bracket that comes
first is a member. -/
def setRanges : Nat → Bool → Option UInt8 → Bytes →
    Option (List (UInt8 × UInt8) × Bytes)
  | 0, _, _, _ => none
  | fuel + 1, isFirst, left, bytes =>
      if bytes.head? = some bracketEnd && !isFirst then some ([], bytes.tail)
      else
        match member? left bytes with
        | none => none
        | some member =>
            (setRanges fuel false member.left member.after).map fun (more, after) =>
              (member.ranges ++ more, after)

/-- A set whose opening bracket has been taken. -/
def set? (bytes : Bytes) : Option (Glob × Bytes) :=
  match bytes with
  | 33 :: after | 94 :: after =>
      (setRanges (after.length + 1) true none after).map fun (ranges, rest) =>
        (.oneOf true ranges, rest)
  | after =>
      (setRanges (after.length + 1) true none after).map fun (ranges, rest) =>
        (.oneOf false ranges, rest)

/-- The stars at one place, `rest` being what follows them: the last part says whether
they can be left out together with the slash after them. -/
def stars (forPaths double atPartStart : Bool) (rest : Bytes) : Glob :=
  if !forPaths then .star true
  else if double && atPartStart then
    match rest with
    | [] => .star true
    | 47 :: _ => .folders
    | 92 :: 47 :: _ => .star true
    | _ => .star false
  else .star false

/-- Every step takes at least one byte, so the length of the pattern is fuel enough. -/
def readWithin (forPaths : Bool) : Nat → Bool → Bytes → List Glob
  | 0, _, _ => []
  | fuel + 1, atPartStart, bytes =>
      match bytes with
      | [] => []
      | [92] => [.never]
      | 92 :: value :: after => .byte value :: readWithin forPaths fuel (value = slash) after
      | 63 :: after => .anyByte :: readWithin forPaths fuel false after
      | 42 :: after =>
          let rest := after.dropWhile (· = 42)
          match stars forPaths (after.head? = some 42) atPartStart rest with
          | .folders => .folders :: readWithin forPaths fuel true rest.tail
          | wildcard => wildcard :: readWithin forPaths fuel false rest
      | 91 :: after =>
          match set? after with
          | some (set, rest) => set :: readWithin forPaths fuel false rest
          | none => [.never]
      | value :: after => .byte value :: readWithin forPaths fuel (value = slash) after

def read (forPaths : Bool) (pattern : Bytes) : List Glob :=
  readWithin forPaths pattern.length true pattern

/-! ## Matching -/

def contains (ranges : List (UInt8 × UInt8)) (value : UInt8) : Bool :=
  ranges.any fun (first, last) => first ≤ value && value ≤ last

/-- What remains after the next slash, which is shorter. -/
def afterSlash? : (text : Bytes) → Option { rest : Bytes // rest.length < text.length }
  | [] => none
  | head :: rest =>
      if head = slash then some ⟨rest, Nat.lt_succ_self _⟩
      else (afterSlash? rest).map fun found => ⟨found.1, Nat.lt_succ_of_lt found.2⟩

def matchesTokens (forPaths : Bool) : List Glob → Bytes → Bool
  | [], text => text = []
  | .never :: _, _ => false
  | .byte value :: pattern, text =>
      match text with
      | [] => false
      | head :: text => head = value && matchesTokens forPaths pattern text
  | .anyByte :: pattern, text =>
      match text with
      | [] => false
      | head :: text =>
          (!forPaths || head != slash) && matchesTokens forPaths pattern text
  | .oneOf negated ranges :: pattern, text =>
      match text with
      | [] => false
      | head :: text =>
          (!forPaths || head != slash) && contains ranges head != negated &&
            matchesTokens forPaths pattern text
  | .star crosses :: pattern, text =>
      matchesTokens forPaths pattern text ||
        match text with
        | [] => false
        | head :: text =>
            (crosses || head != slash) &&
              matchesTokens forPaths (.star crosses :: pattern) text
  | .folders :: pattern, text =>
      matchesTokens forPaths pattern text ||
        match afterSlash? text with
        | none => false
        | some ⟨rest, _⟩ => matchesTokens forPaths (.folders :: pattern) rest
termination_by pattern text => pattern.length + text.length

def matchesText (forPaths : Bool) (pattern text : Bytes) : Bool :=
  matchesTokens forPaths (read forPaths pattern) text

end Glob

end MemoryProbe.Git
