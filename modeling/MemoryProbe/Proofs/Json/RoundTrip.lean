import MemoryProbe.Proofs.Json.Reader

namespace MemoryProbe.Json

/-! ## Characters of a text

Each escape is read back as the character it stands for, so a quoted text is read
back whole. -/

private theorem hexValue?_hexDigit {value : Nat} (small : value < 16) :
    hexValue? (hexDigit value) = some value := by
  have all : ∀ value : Fin 16, hexValue? (hexDigit value.val) = some value.val := by decide
  exact all ⟨value, small⟩

private theorem codeChar?_toNat {character : Char} (control : character.toNat < 32) :
    codeChar? character.toNat = some character := by
  rw [codeChar?, if_pos (by omega), Char.ofNat_toNat]

namespace Reader

variable (place : Place) (content : List Char)

theorem run_cons (reader : Reader) (character : Char) (rest : List Char) :
    reader.run (character :: rest) = (reader.step character).bind (·.run rest) :=
  List.foldlM_cons

theorem run_append (reader : Reader) (left right : List Char) :
    reader.run (left ++ right) = (reader.run left).bind (·.run right) :=
  List.foldlM_append

private theorem run_controlEscape {character : Char} (control : character.toNat < 32) :
    run ⟨place, .text content⟩ (controlEscape character.toNat) =
      some ⟨place, .text (character :: content)⟩ := by
  have high := hexValue?_hexDigit (show character.toNat / 16 < 16 by omega)
  have low := hexValue?_hexDigit (show character.toNat % 16 < 16 by omega)
  have code : 16 * (character.toNat / 16) + character.toNat % 16 = character.toNat := by
    omega
  have zero : hexValue? '0' = some 0 := rfl
  simp [controlEscape, run, step, inText, inEscape, inCode, zero, high, low, code,
    codeChar?_toNat control]

theorem run_escape (character : Char) :
    run ⟨place, .text content⟩ (escape character) =
      some ⟨place, .text (character :: content)⟩ := by
  rcases escape_cases character with
    ⟨letter, notCode, meant, written⟩ | ⟨control, written⟩ |
    ⟨notQuote, notBackslash, notControl, written⟩
  · rw [written]
    simp [run, step, inText, inEscape, notCode, meant]
  · rw [written]
    exact run_controlEscape place content control
  · rw [written]
    simp [run, step, inText, notQuote, notBackslash, notControl]

theorem run_escapes (text : List Char) :
    run ⟨place, .text content⟩ (text.flatMap escape) =
      some ⟨place, .text (text.reverse ++ content)⟩ := by
  induction text generalizing content with
  | nil => rfl
  | cons character rest induction =>
      rw [List.flatMap_cons, run_append, run_escape, Option.bind_some, induction,
        List.reverse_cons, List.append_assoc, List.singleton_append]

theorem run_quoted (text : String) :
    run ⟨place, .nothing⟩ (quoted text).toList =
      (place.take (.scalar (.text text))).map (⟨·, .nothing⟩) := by
  have opened : step ⟨place, .nothing⟩ '"' = some ⟨place, .text []⟩ := rfl
  have closed : step ⟨place, .text text.toList.reverse⟩ '"' =
      (place.take (.scalar (.text text))).map (⟨·, .nothing⟩) := by
    simp [step, inText]
  rw [quoted, String.toList_ofList, List.cons_append, run_cons, opened, Option.bind_some,
    run_append, run_escapes, Option.bind_some, List.append_nil, run_cons, closed]
  cases place.take (.scalar (.text text)) <;> rfl

/-! ## Bare words

A word is complete when something that is not part of it follows. -/

private theorem run_inWord {word : List Char} (bare : ∀ character ∈ word, isBare character = true)
    (before : List Char) :
    run ⟨place, .bare before⟩ word = some ⟨place, .bare (word.reverse ++ before)⟩ := by
  induction word generalizing before with
  | nil => rfl
  | cons character rest induction =>
      have bareFirst := bare character List.mem_cons_self
      have bareRest := fun other member => bare other (List.mem_cons_of_mem character member)
      rw [run_cons]
      simp only [step, bareFirst, if_true, Option.bind_some]
      rw [induction bareRest, List.reverse_cons, List.append_assoc, List.singleton_append]

end Reader

private theorem digits_ne_cons (number : Nat) {first : Char} (letter : first.isDigit = false)
    (rest : List Char) : Nat.toDigits 10 number ≠ first :: rest := by
  intro spelled
  have member : first ∈ Nat.toDigits 10 number := spelled ▸ List.mem_cons_self
  exact Text.Decimal.not_mem_toDigits letter number member

private theorem bare?_digits (number : Nat) :
    bare? (Nat.toDigits 10 number) = some (.whole number) := by
  have read : whole? (Nat.toDigits 10 number) = some number := by
    simp [whole?, Nat.ofDigitChars_ten_toDigits]
  rw [bare?]
  · rw [read, Option.map_some]
  · exact digits_ne_cons number (by decide) _
  · exact digits_ne_cons number (by decide) _
  · exact digits_ne_cons number (by decide) _

private theorem isBare_of_mem_digits {number : Nat} {character : Char}
    (member : character ∈ Nat.toDigits 10 number) : isBare character = true := by
  have digit := Text.Decimal.isDigit_of_mem_toDigits member
  simp [isBare, Char.isAlphanum, digit]

private theorem begin_bare (place : Place) {character : Char} (bare : isBare character = true) :
    Reader.begin place character = some ⟨place, .bare [character]⟩ := by
  have notBlank : isBlank character = false := by
    cases blank : isBlank character with
    | false => rfl
    | true =>
        simp only [isBlank, Bool.or_eq_true, decide_eq_true_eq] at blank
        rcases blank with ((rfl | rfl) | rfl) | rfl <;> exact absurd bare (by decide)
  have notQuote : character ≠ '"' := by
    intro quote
    subst quote
    exact absurd bare (by decide)
  simp [Reader.begin, notBlank, notQuote, bare]

theorem run_word (place : Place) {word : List Char} (nonempty : word ≠ [])
    (bare : ∀ character ∈ word, isBare character = true) :
    Reader.run ⟨place, .nothing⟩ word = some ⟨place, .bare word.reverse⟩ := by
  cases word with
  | nil => exact absurd rfl nonempty
  | cons first rest =>
      have begun : Reader.step ⟨place, .nothing⟩ first = some ⟨place, .bare [first]⟩ :=
        begin_bare place (bare first List.mem_cons_self)
      have bareRest := fun other member => bare other (List.mem_cons_of_mem first member)
      rw [Reader.run_cons, begun, Option.bind_some, Reader.run_inWord place bareRest,
        List.reverse_cons]

/-- A punctuation mark after a complete token is taken for itself. -/
theorem not_bare_of_mark {character : Char} {token : Token}
    (mark : punctuation? character = some token) :
    isBlank character = false ∧ character ≠ '"' ∧ isBare character = false := by
  unfold punctuation? at mark
  split at mark
  all_goals first
    | decide
    | exact absurd mark (by simp)

private theorem step_mark {reader : Reader} {place : Place} {character : Char} {token : Token}
    (settled : reader.settled? = some place) (mark : punctuation? character = some token) :
    reader.step character = (place.take token).map (⟨·, .nothing⟩) := by
  rcases not_bare_of_mark mark with ⟨notBlank, notQuote, notBare⟩
  have begun : ∀ place : Place,
      Reader.begin place character = (place.take token).map (⟨·, .nothing⟩) := by
    intro place
    simp [Reader.begin, notBlank, notQuote, notBare, mark]
  rcases reader with ⟨current, within⟩
  cases within with
  | nothing =>
      cases settled
      exact begun _
  | bare word =>
      simp only [Reader.step, notBare, Bool.false_eq_true, if_false, settled, Option.bind_some]
      exact begun place
  | text content => cases settled
  | escape content => cases settled
  | code content owed value => cases settled

/-! ## Whole values

By induction on the value: where a value is due, reading what was written for one
ends with that value read. The last word may still be pending there, which the next
mark or the end of the text settles. -/

def Reader.ends (reader : Reader) (text : List Char) : Option Place :=
  (reader.run text).bind Reader.settled?

theorem run_append_mark {reader : Reader} {text : List Char} {place next : Place}
    {character : Char} {token : Token} (ended : reader.ends text = some place)
    (mark : punctuation? character = some token) (taken : place.take token = some next)
    (rest : List Char) :
    reader.run (text ++ character :: rest) = Reader.run ⟨next, .nothing⟩ rest := by
  rcases Option.bind_eq_some_iff.mp ended with ⟨middle, ran, settled⟩
  rw [Reader.run_append, ran, Option.bind_some, Reader.run_cons, step_mark settled mark, taken]
  rfl

theorem ends_quoted {place next : Place} {text : String}
    (taken : place.take (.scalar (.text text)) = some next) :
    Reader.ends ⟨place, .nothing⟩ (quoted text).toList = some next := by
  rw [Reader.ends, Reader.run_quoted, taken]
  rfl

theorem ends_member {value : Value} {before : List (String × Value)} {name : String}
    {outer : List Frame} {next : Place}
    (ended : Reader.ends ⟨.value (.member before name :: outer), .nothing⟩ value.render =
      some next) :
    Reader.ends ⟨.name before outer, .nothing⟩ ((quoted name).toList ++ ':' :: value.render) =
      some next := by
  have named : Reader.ends ⟨.name before outer, .nothing⟩ (quoted name).toList =
      some (.colon before name outer) :=
    ends_quoted rfl
  rw [Reader.ends, run_append_mark named rfl rfl]
  exact ended

mutual
theorem ends_render : ∀ (value : Value) (outer : List Frame),
    Reader.ends ⟨.value outer, .nothing⟩ value.render = some (.after value outer)
  | .null, outer => by rfl
  | .truth true, outer => by rfl
  | .truth false, outer => by rfl
  | .whole number, outer => by
      have ran := run_word (.value outer) (Nat.toDigits_ne_nil (n := number) (b := 10))
        fun _ => isBare_of_mem_digits
      rw [Value.render, Reader.ends, ran, Option.bind_some, Reader.settled?,
        List.reverse_reverse, bare?_digits, Option.bind_some, Place.take]
  | .text content, outer => by
      rw [Value.render]
      exact ends_quoted rfl
  | .array [], outer => by rfl
  | .array (item :: rest), outer => by
      have read := run_renderItems rest _ _ item [] outer (ends_render item _)
      have opened : Reader.step ⟨.value outer, .nothing⟩ '[' =
          some ⟨.value (.item [] :: outer), .nothing⟩ := rfl
      rw [Value.render, renderItems, List.tail_cons, Reader.ends, List.cons_append,
        List.append_assoc, Reader.run_cons, opened, Option.bind_some, read]
      rfl
  | .object [], outer => by rfl
  | .object ((name, value) :: rest), outer => by
      have read := run_renderMembers rest _ _ name value [] outer
        (ends_member (ends_render value _))
      have opened : Reader.step ⟨.value outer, .nothing⟩ '{' =
          some ⟨.name [] outer, .nothing⟩ := rfl
      rw [List.append_assoc, List.cons_append] at read
      rw [Value.render, renderMembers, List.tail_cons, Reader.ends, List.cons_append,
        List.append_assoc, List.cons_append, List.append_assoc, Reader.run_cons, opened,
        Option.bind_some, read]
      rfl

theorem run_renderItems : ∀ (items : List Value) (reader : Reader) (text : List Char)
    (last : Value) (before : List Value) (outer : List Frame),
    reader.ends text = some (.after last (.item before :: outer)) →
    reader.run (text ++ (renderItems items ++ [']'])) =
      some ⟨.after (.array ((last :: before).reverse ++ items)) outer, .nothing⟩
  | [], reader, text, last, before, outer, ended => by
      rw [renderItems, List.nil_append, run_append_mark ended rfl rfl, List.append_nil]
      rfl
  | item :: rest, reader, text, last, before, outer, ended => by
      have next := run_renderItems rest ⟨.value (.item (last :: before) :: outer), .nothing⟩
        item.render item (last :: before) outer (ends_render item _)
      rw [renderItems, List.cons_append, List.append_assoc, run_append_mark ended rfl rfl, next,
        List.reverse_cons, List.append_assoc, List.singleton_append]

theorem run_renderMembers : ∀ (members : List (String × Value)) (reader : Reader)
    (text : List Char) (name : String) (last : Value) (before : List (String × Value))
    (outer : List Frame),
    reader.ends text = some (.after last (.member before name :: outer)) →
    reader.run (text ++ (renderMembers members ++ ['}'])) =
      some ⟨.after (.object (((name, last) :: before).reverse ++ members)) outer, .nothing⟩
  | [], reader, text, name, last, before, outer, ended => by
      rw [renderMembers, List.nil_append, run_append_mark ended rfl rfl, List.append_nil]
      rfl
  | (field, value) :: rest, reader, text, name, last, before, outer, ended => by
      have next := run_renderMembers rest ⟨.name ((name, last) :: before) outer, .nothing⟩
        ((quoted field).toList ++ ':' :: value.render) field value ((name, last) :: before)
        outer (ends_member (ends_render value _))
      rw [List.append_assoc, List.cons_append] at next
      rw [renderMembers, List.cons_append, List.append_assoc, List.cons_append,
        List.append_assoc, run_append_mark ended rfl rfl, next, List.reverse_cons,
        List.append_assoc, List.singleton_append]
end

/-- What was written for a value is read back as that value. -/
theorem read_render (value : Value) : read value.render = some value := by
  have ended : Reader.start.ends value.render = some (.after value []) := ends_render value []
  rcases Option.bind_eq_some_iff.mp ended with ⟨last, ran, settled⟩
  rw [read, ran, Option.bind_some, settled]
  rfl

/-- Blanks and other escapes are read as well, and what is not JSON is refused. -/
example : read " [1, \"\\u0041\\/\" ,\x7b\"a\" : null\x7d]\n".toList =
    some (.array [.whole 1, .text "A/", .object [("a", .null)]]) := rfl

example : (["[01]", "[1,]", "[1 2]", "\x7b,\x7d", "\"a\nb\"", "nul", ""].map
    fun text => (read text.toList).isNone).all id = true := by
  decide

end MemoryProbe.Json
