import MemoryProbe.Json.Quoted
import MemoryProbe.Text.Decimal

namespace MemoryProbe.Json

/-- The values of JSON, with whole numbers only. A value is written without blanks, the
members of an object in their order. -/
inductive Value where
  | null
  | truth (holds : Bool)
  | whole (number : Nat)
  | text (content : String)
  | array (items : List Value)
  | object (members : List (String × Value))

/-! Every item and every member is written with a comma before it; the first comma
is dropped. -/

mutual
def Value.render : Value → List Char
  | .null => ['n', 'u', 'l', 'l']
  | .truth true => ['t', 'r', 'u', 'e']
  | .truth false => ['f', 'a', 'l', 's', 'e']
  | .whole number => Nat.toDigits 10 number
  | .text content => (quoted content).toList
  | .array items => '[' :: (renderItems items).tail ++ [']']
  | .object members => '{' :: (renderMembers members).tail ++ ['}']

def renderItems : List Value → List Char
  | [] => []
  | item :: rest => ',' :: (item.render ++ renderItems rest)

def renderMembers : List (String × Value) → List Char
  | [] => []
  | (name, value) :: rest =>
      ',' :: ((quoted name).toList ++ ':' :: (value.render ++ renderMembers rest))
end

def unescape? : Char → Option Char
  | '"' => some '"'
  | '\\' => some '\\'
  | '/' => some '/'
  | 'b' => some '\x08'
  | 'f' => some '\x0c'
  | 'n' => some '\n'
  | 'r' => some '\r'
  | 't' => some '\t'
  | _ => none

/-- A character inside a text is written as a letter after a backslash, as a code, or as
itself. -/
theorem escape_cases (character : Char) :
    (∃ letter, letter ≠ 'u' ∧ unescape? letter = some character ∧
      escape character = ['\\', letter]) ∨
    (character.toNat < 32 ∧ escape character = controlEscape character.toNat) ∨
    (character ≠ '"' ∧ character ≠ '\\' ∧ ¬character.toNat < 32 ∧
      escape character = [character]) := by
  by_cases quote : character = '"'
  · subst quote
    exact .inl ⟨'"', by decide, rfl, rfl⟩
  by_cases backslash : character = '\\'
  · subst backslash
    exact .inl ⟨'\\', by decide, rfl, rfl⟩
  by_cases backspace : character = '\x08'
  · subst backspace
    exact .inl ⟨'b', by decide, rfl, rfl⟩
  by_cases formFeed : character = '\x0c'
  · subst formFeed
    exact .inl ⟨'f', by decide, rfl, rfl⟩
  by_cases newline : character = '\n'
  · subst newline
    exact .inl ⟨'n', by decide, rfl, rfl⟩
  by_cases carriageReturn : character = '\r'
  · subst carriageReturn
    exact .inl ⟨'r', by decide, rfl, rfl⟩
  by_cases tab : character = '\t'
  · subst tab
    exact .inl ⟨'t', by decide, rfl, rfl⟩
  simp only [escape, quote, backslash, backspace, formFeed, newline, carriageReturn, tab,
    if_false]
  by_cases control : character.toNat < 32
  · exact .inr (.inl ⟨control, if_pos control⟩)
  · exact .inr (.inr ⟨quote, backslash, control, if_neg control⟩)

/-! ## One line

A written value stays on its line: inside a text a newline is written as an
escape, and nothing else that is written is a newline. -/

private theorem hexDigit_ne_newline {value : Nat} (small : value < 16) : hexDigit value ≠ '\n' := by
  have all : ∀ value : Fin 16, hexDigit value.val ≠ '\n' := by decide
  exact all ⟨value, small⟩

theorem newline_not_mem_escape (character : Char) : '\n' ∉ escape character := by
  rcases escape_cases character with
    ⟨letter, -, meant, written⟩ | ⟨control, written⟩ | ⟨-, -, notControl, written⟩
  · have notNewline : letter ≠ '\n' := by
      intro newline
      subst newline
      simp [unescape?] at meant
    simp [written, notNewline.symm]
  · have high : hexDigit (character.toNat / 16) ≠ '\n' := hexDigit_ne_newline (by omega)
    have low : hexDigit (character.toNat % 16) ≠ '\n' := hexDigit_ne_newline (by omega)
    simp [written, controlEscape, high.symm, low.symm]
  · have notNewline : character ≠ '\n' := by
      intro newline
      subst newline
      exact notControl (by decide)
    simp [written, notNewline.symm]

theorem newline_not_mem_quoted (text : String) : '\n' ∉ (quoted text).toList := by
  simp [quoted, newline_not_mem_escape]

private theorem newline_not_mem_tail {text : List Char} (free : '\n' ∉ text) : '\n' ∉ text.tail :=
  fun member => free (List.mem_of_mem_tail member)

mutual
theorem newline_not_mem_render : ∀ value : Value, '\n' ∉ value.render
  | .null => by simp [Value.render]
  | .truth true => by simp [Value.render]
  | .truth false => by simp [Value.render]
  | .whole number => by
      rw [Value.render]
      exact Text.Decimal.not_mem_toDigits (by decide) number
  | .text content => by
      rw [Value.render]
      exact newline_not_mem_quoted content
  | .array items => by
      simp [Value.render, newline_not_mem_tail (newline_not_mem_renderItems items)]
  | .object members => by
      simp [Value.render, newline_not_mem_tail (newline_not_mem_renderMembers members)]

theorem newline_not_mem_renderItems : ∀ items : List Value, '\n' ∉ renderItems items
  | [] => by simp [renderItems]
  | item :: rest => by
      simp [renderItems, newline_not_mem_render item, newline_not_mem_renderItems rest]

theorem newline_not_mem_renderMembers :
    ∀ members : List (String × Value), '\n' ∉ renderMembers members
  | [] => by simp [renderMembers]
  | (name, value) :: rest => by
      simp [renderMembers, newline_not_mem_quoted name, newline_not_mem_render value,
        newline_not_mem_renderMembers rest]
end

end MemoryProbe.Json
