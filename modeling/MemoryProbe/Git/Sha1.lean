import MemoryProbe.Bytes.Utf8

namespace MemoryProbe.Git.Sha1

/-! ## The SHA-1 digest

The message is padded to whole blocks of sixteen words, and each block is mixed into
five words of state in eighty rounds. -/

structure State where
  a : UInt32
  b : UInt32
  c : UInt32
  d : UInt32
  e : UInt32
  deriving DecidableEq, Repr

def State.initial : State :=
  ⟨0x67452301, 0xEFCDAB89, 0x98BADCFE, 0x10325476, 0xC3D2E1F0⟩

def rotate (word amount : UInt32) : UInt32 :=
  (word <<< amount) ||| (word >>> (32 - amount))

/-! ## Padding -/

def bigEndian : Nat → Nat → Bytes
  | 0, _ => []
  | count + 1, value => bigEndian count (value / 256) ++ [UInt8.ofNat (value % 256)]

def paddingZeros (length : Nat) : Nat :=
  (119 - length % 64) % 64

def padded (message : Bytes) : Bytes :=
  message ++ 0x80 :: List.replicate (paddingZeros message.length) 0 ++
    bigEndian 8 (8 * message.length)

def words : Bytes → List UInt32
  | first :: second :: third :: fourth :: rest =>
      (first.toUInt32 <<< 24 ||| second.toUInt32 <<< 16 ||| third.toUInt32 <<< 8 |||
        fourth.toUInt32) :: words rest
  | _ => []

/-! ## Rounds -/

def choice (state : State) (round : Nat) : UInt32 × UInt32 :=
  if round < 20 then
    ((state.b &&& state.c) ||| (~~~state.b &&& state.d), 0x5A827999)
  else if round < 40 then (state.b ^^^ state.c ^^^ state.d, 0x6ED9EBA1)
  else if round < 60 then
    ((state.b &&& state.c) ||| (state.b &&& state.d) ||| (state.c &&& state.d), 0x8F1BBCDC)
  else (state.b ^^^ state.c ^^^ state.d, 0xCA62C1D6)

def State.mix (state : State) (round : Nat) (word : UInt32) : State :=
  let (chosen, constant) := choice state round
  ⟨rotate state.a 5 + chosen + state.e + constant + word, state.a, rotate state.b 30,
    state.c, state.d⟩

/-- The sixteen latest words of the schedule are kept, the oldest first. -/
def extended (window : List UInt32) : UInt32 :=
  rotate (window.getD 13 0 ^^^ window.getD 8 0 ^^^ window.getD 2 0 ^^^ window.getD 0 0) 1

def rounds : Nat → List UInt32 → State → State
  | 0, _, state => state
  | left + 1, window, state =>
      rounds left (window.drop 1 ++ [extended window])
        (state.mix (79 - left) (window.getD 0 0))

def State.absorb (state : State) (block : List UInt32) : State :=
  let mixed := rounds 80 block state
  ⟨state.a + mixed.a, state.b + mixed.b, state.c + mixed.c, state.d + mixed.d,
    state.e + mixed.e⟩

def absorbBlocks : Nat → List UInt32 → State → State
  | 0, _, state => state
  | count + 1, schedule, state =>
      absorbBlocks count (schedule.drop 16) (state.absorb (schedule.take 16))

def State.bytes (state : State) : Bytes :=
  [state.a, state.b, state.c, state.d, state.e].flatMap fun word => bigEndian 4 word.toNat

def digest (message : Bytes) : Bytes :=
  let schedule := words (padded message)
  (absorbBlocks (schedule.length / 16) schedule State.initial).bytes

end MemoryProbe.Git.Sha1
