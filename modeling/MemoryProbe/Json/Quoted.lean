namespace MemoryProbe.Json

def hexDigit (value : Nat) : Char :=
  if value < 10 then Char.ofNat (48 + value) else Char.ofNat (87 + value)

def controlEscape (code : Nat) : List Char :=
  ['\\', 'u', '0', '0', hexDigit (code / 16), hexDigit (code % 16)]

/-- A quote, a backslash and the control characters are written with a backslash; five
controls have a letter of their own and the others four hexadecimal digits. Everything
else stands for itself. -/
def escape (character : Char) : List Char :=
  if character = '"' then ['\\', '"']
  else if character = '\\' then ['\\', '\\']
  else if character = '\x08' then ['\\', 'b']
  else if character = '\x0c' then ['\\', 'f']
  else if character = '\n' then ['\\', 'n']
  else if character = '\r' then ['\\', 'r']
  else if character = '\t' then ['\\', 't']
  else if character.toNat < 32 then controlEscape character.toNat
  else [character]

def quoted (text : String) : String :=
  String.ofList ('"' :: text.toList.flatMap escape ++ ['"'])

end MemoryProbe.Json
