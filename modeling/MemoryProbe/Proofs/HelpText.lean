import MemoryProbe.Bytes.Utf8
import MemoryProbe.CommandLine.Help
import Mathlib.Data.List.Chain

namespace MemoryProbe

namespace Text

/-! ## How the lines of a text begin -/

def lineStarts : List Char := [' ', '\n', 'U', 'O']

/-- After the first line of a help text, every line is blank, or begins with a blank or
with one of the two titles. -/
def KeepsMargin (text : List Char) : Prop :=
  text.IsChain fun left right => left = '\n' → right ∈ lineStarts

instance (text : List Char) : Decidable (KeepsMargin text) :=
  inferInstanceAs (Decidable (text.IsChain _))

/-- A text that can stand within a line. Two of them can be put together. -/
def Inline (text : List Char) : Prop :=
  KeepsMargin text ∧ ∀ last ∈ text.getLast?, last ≠ '\n'

/-- A text that can begin a line. Two of them can be put together. -/
def Block (text : List Char) : Prop :=
  KeepsMargin text ∧ ∀ first ∈ text.head?, first ∈ lineStarts

variable {left right : List Char}

theorem KeepsMargin.append (onLeft : KeepsMargin left) (onRight : Block right) :
    KeepsMargin (left ++ right) :=
  List.IsChain.append onLeft onRight.1 fun _ _ first begins _ => onRight.2 first begins

theorem Inline.append (inLeft : Inline left) (inRight : Inline right) :
    Inline (left ++ right) := by
  refine ⟨List.IsChain.append inLeft.1 inRight.1 ?_, ?_⟩
  · intro last ends _ _ newline
    exact absurd newline (inLeft.2 last ends)
  · intro last ends
    rw [List.getLast?_append, Option.mem_def, Option.or_eq_some_iff] at ends
    rcases ends with ends | ⟨_, ends⟩
    · exact inRight.2 last ends
    · exact inLeft.2 last ends

theorem Block.append (onLeft : Block left) (onRight : Block right) :
    Block (left ++ right) := by
  refine ⟨onLeft.1.append onRight, ?_⟩
  intro first begins
  rw [List.head?_append, Option.mem_def, Option.or_eq_some_iff] at begins
  rcases begins with begins | ⟨_, begins⟩
  · exact onLeft.2 first begins
  · exact onRight.2 first begins

/-- A text that opens a line with a blank can go on within it. -/
def Opens (text : List Char) : Prop :=
  text.head? = some ' ' ∧ Inline text

theorem Opens.append (opens : Opens left) (inRight : Inline right) : Opens (left ++ right) := by
  refine ⟨?_, opens.2.append inRight⟩
  rw [List.head?_append, opens.1, Option.some_or]

theorem Opens.block_append (opens : Opens left) (margin : KeepsMargin right) :
    Block (left ++ right) := by
  refine ⟨List.IsChain.append opens.2.1 margin ?_, ?_⟩
  · intro last ends _ _ newline
    exact absurd newline (opens.2.2 last ends)
  · intro first begins
    rw [List.head?_append, opens.1, Option.some_or] at begins
    cases begins
    decide

theorem Inline.of_not_mem {text : List Char} (free : '\n' ∉ text) : Inline text := by
  induction text with
  | nil => exact ⟨List.isChain_nil, fun _ ends => by cases ends⟩
  | cons first rest induction =>
      rw [List.mem_cons, not_or] at free
      have single : Inline [first] := by
        refine ⟨List.isChain_singleton first, fun last ends => ?_⟩
        cases ends
        exact fun newline => free.1 newline.symm
      exact single.append (induction free.2)

theorem Inline.blanks (count : Nat) : Inline (List.replicate count ' ') :=
  of_not_mem fun member => by cases List.eq_of_mem_replicate member

theorem Inline.flatMap {Item : Type} {items : List Item} {shown : Item → List Char}
    (each : ∀ item ∈ items, Inline (shown item)) : Inline (items.flatMap shown) := by
  induction items with
  | nil => exact of_not_mem List.not_mem_nil
  | cons first rest induction =>
      rw [List.forall_mem_cons] at each
      rw [List.flatMap_cons]
      exact each.1.append (induction each.2)

theorem Inline.intercalate {separator : List Char} (inSeparator : Inline separator)
    {texts : List (List Char)} (each : ∀ text ∈ texts, Inline text) :
    Inline (separator.intercalate texts) := by
  induction texts with
  | nil => exact of_not_mem List.not_mem_nil
  | cons first rest induction =>
      rw [List.forall_mem_cons] at each
      cases rest with
      | nil => simpa [List.intercalate] using each.1
      | cons second later =>
          rw [List.intercalate_cons_cons]
          exact (each.1.append inSeparator).append (induction each.2)

theorem Block.nil : Block [] :=
  ⟨List.isChain_nil, fun _ begins => by cases begins⟩

theorem Block.flatMap {Item : Type} {items : List Item} {shown : Item → List Char}
    (each : ∀ item ∈ items, Block (shown item)) : Block (items.flatMap shown) := by
  induction items with
  | nil => exact nil
  | cons first rest induction =>
      rw [List.forall_mem_cons] at each
      rw [List.flatMap_cons]
      exact each.1.append (induction each.2)

/-- A newline that is shown leaves nothing open behind it, so what begins the next line
is shown too. -/
theorem ControlState.advance_newline (state : ControlState) (isShown : (state.advance '\n').2) :
    (state.advance '\n').1 = .ground := by
  cases state <;> first | rfl | cases isShown

private theorem ControlState.advance_lineStart {character : Char}
    (starts : character ∈ lineStarts) :
    ControlState.ground.advance character = (.ground, true) := by
  simp only [lineStarts, List.mem_cons, List.not_mem_nil, or_false] at starts
  rcases starts with rfl | rfl | rfl | rfl <;> rfl

theorem keepsMargin_printableFrom {text : List Char} (margin : KeepsMargin text)
    (state : ControlState) : KeepsMargin (printableFrom state text) := by
  induction text generalizing state with
  | nil => exact margin
  | cons first rest induction =>
      have marginRest := (List.isChain_cons.mp margin).2
      unfold printableFrom
      by_cases isShown : (state.advance first).2
      · simp only [isShown, if_true]
        refine List.IsChain.cons (induction marginRest _) ?_
        rintro second begins rfl
        rw [ControlState.advance_newline state isShown] at begins
        cases rest with
        | nil => cases begins
        | cons next later =>
            have starts := (List.isChain_cons.mp margin).1 next rfl rfl
            rw [printableFrom, ControlState.advance_lineStart starts] at begins
            cases begins
            exact starts
      · simp only [isShown]
        exact induction marginRest _

end Text

namespace CommandLine

open Text (Inline Opens Block KeepsMargin)

/-! ## Entries

The names and notes of settings are texts without a newline. What the environment sets
stays within the note about it, as its lines are indented. -/

private theorem inline_about (setting : Setting) : Inline setting.about.toList := by
  cases setting <;> exact Inline.of_not_mem (by simp [Setting.about])

private theorem inline_defaultNotes (setting : Setting) :
    ∀ note ∈ defaultNotes setting, Inline note.toList := by
  intro note member
  refine Inline.of_not_mem ?_
  cases setting <;> simp [defaultNotes, Setting.default?] at member <;> simp [member]

private theorem inline_choiceNotes (setting : Setting) :
    ∀ note ∈ choiceNotes setting, Inline note.toList := by
  intro note member
  refine Inline.of_not_mem ?_
  cases setting <;> simp [choiceNotes] at member
  simp [member]

private theorem inline_indented (width : Nat) (text : String) :
    Inline (indented (width + 1) text).toList := by
  rw [indented, String.toList_ofList]
  refine Inline.flatMap fun character _ => ?_
  by_cases newline : character = '\n'
  · have lead : Inline ['\n', ' '] := ⟨by decide, by simp⟩
    rw [if_pos newline]
    exact lead.append (Inline.blanks width)
  · rw [if_neg newline]
    exact Inline.of_not_mem fun member => newline (List.mem_singleton.mp member).symm

private theorem inline_variableNote (environment : Environment) (width : Nat) (setting : Setting) :
    Inline (variableNote environment (width + 1) setting).toList := by
  have opening : Inline ("[env: " ++ setting.variableName ++ "=").toList := by
    cases setting <;> exact Inline.of_not_mem (by simp [Setting.variableName, Setting.valueName])
  have closing : Inline "]".toList := Inline.of_not_mem (by simp)
  unfold variableNote
  rw [String.toList_append, String.toList_append]
  exact (opening.append (inline_indented width _)).append closing

private theorem opens_spaces (count : Nat) : Opens (spaces (count + 1)).toList := by
  rw [spaces, String.toList_ofList]
  exact ⟨rfl, Inline.blanks (count + 1)⟩

private theorem opens_boldUsage (setting : Setting) : Opens (boldUsage setting).toList := by
  cases setting <;>
    exact ⟨by simp [boldUsage], Inline.of_not_mem
      (by simp [boldUsage, bold, Setting.optionName, Setting.valueName])⟩

private theorem opens_boldFlags {short : String} (free : '\n' ∉ short.toList) (flag : HelpFlag) :
    Opens (boldFlags short flag).toList := by
  cases flag <;>
    exact ⟨by simp [boldFlags], Inline.of_not_mem
      (by simp [boldFlags, bold, HelpFlag.optionName, free])⟩

private theorem opens_padded {text : String} (opens : Opens text.toList) (width : Nat) :
    Opens (padded width text).toList := by
  rw [padded, String.toList_append, spaces, String.toList_ofList]
  exact opens.append (Inline.blanks _)

private theorem block_newline : Block "\n".toList := by
  refine ⟨List.isChain_singleton '\n', fun first begins => ?_⟩
  cases begins
  decide

private theorem block_longLine {text : String} (inText : Inline text.toList) :
    Block (longLine text).toList := by
  unfold longLine
  rw [String.toList_append, String.toList_append]
  exact ((opens_spaces _).append inText).block_append block_newline.1

private theorem block_choiceLines (setting : Setting) : Block (choiceLines setting).toList := by
  cases setting with
  | format =>
      unfold choiceLines
      simp only [String.toList_append]
      refine ((block_newline.append (block_longLine ?_)).append (block_longLine ?_)).append
        (block_longLine ?_)
      all_goals exact Inline.of_not_mem (by simp)
  | samples => exact Block.nil
  | intervalMs => exact Block.nil
  | logFile => exact Block.nil

private theorem block_longEntry (environment : Environment) (setting : Setting) :
    Block (longEntry environment setting).toList := by
  have blank : Inline "".toList := Inline.of_not_mem List.not_mem_nil
  have notes : ∀ note ∈ variableNote environment longColumn setting :: defaultNotes setting,
      Block (longLine note).toList := by
    rw [List.forall_mem_cons]
    exact ⟨block_longLine (inline_variableNote _ _ _),
      fun note member => block_longLine (inline_defaultNotes setting note member)⟩
  unfold longEntry
  simp only [String.toList_append, String.toList_join, List.flatMap_map]
  exact ((((((opens_boldUsage setting).block_append block_newline.1).append
    (block_longLine (inline_about setting))).append (block_choiceLines setting)).append
      (block_longLine blank)).append (Block.flatMap notes)).append block_newline

private theorem block_shortEntry (environment : Environment) (setting : Setting) :
    Block (shortEntry environment setting).toList := by
  have blank : Inline " ".toList := Inline.of_not_mem (by simp)
  have notes : ∀ note ∈ setting.about :: variableNote environment shortColumn setting ::
      (defaultNotes setting ++ choiceNotes setting), Inline note.toList := by
    rw [List.forall_mem_cons, List.forall_mem_cons, List.forall_mem_append]
    exact ⟨inline_about setting, inline_variableNote _ _ _, inline_defaultNotes setting,
      inline_choiceNotes setting⟩
  unfold shortEntry
  rw [String.toList_append, String.toList_append, String.toList_intercalate]
  exact ((opens_padded (opens_boldUsage setting) shortColumn).append
    (blank.intercalate (List.forall_mem_map.mpr (by simpa using notes)))).block_append
      block_newline.1

/-! ## Whole texts

The first line is the same for every environment. -/

def Margined (first : Char) (text : String) : Prop :=
  text.toList.head? = some first ∧ KeepsMargin text.toList

private theorem margined_printable {entries flags : String} (onEntries : Block entries.toList)
    (onFlags : Block flags.toList) :
    Margined 'P' (Text.printable (heading ++ (entries ++ flags))) := by
  have margin : KeepsMargin heading.toList := by decide +kernel
  have begins : heading.toList = 'P' :: heading.toList.tail := by decide +kernel
  rw [Margined, Text.printable, String.toList_ofList, String.toList_append,
    String.toList_append]
  constructor
  · rw [begins]
    rfl
  · exact Text.keepsMargin_printableFrom (margin.append (onEntries.append onFlags)) _

theorem margined_longHelp (environment : Environment) :
    Margined 'P' (longHelp environment) := by
  have entries : Block (String.join (Setting.all.map (longEntry environment))).toList := by
    rw [String.toList_join, List.flatMap_map]
    exact Block.flatMap fun setting _ => block_longEntry environment setting
  have flags : Block (boldFlags "-h" .help ++ ("\n" ++
      (longLine "Print help (see a summary with '-h')" ++ ("\n" ++ (boldFlags "-V" .version ++
        ("\n" ++ longLine "Print version")))))).toList := by
    have help : Inline "Print help (see a summary with '-h')".toList :=
      Inline.of_not_mem (by simp)
    have version : Inline "Print version".toList := Inline.of_not_mem (by simp)
    have versionEntry : Block ((boldFlags "-V" .version).toList ++
        ("\n".toList ++ (longLine "Print version").toList)) :=
      (opens_boldFlags (by simp) .version).block_append
        (block_newline.append (block_longLine version)).1
    simp only [String.toList_append]
    exact (opens_boldFlags (by simp) .help).block_append (block_newline.append
      ((block_longLine help).append (block_newline.append versionEntry))).1
  simpa only [longHelp, String.append_assoc] using margined_printable entries flags

theorem margined_shortHelp (environment : Environment) :
    Margined 'P' (shortHelp environment) := by
  have entries : Block (String.join (Setting.all.map (shortEntry environment))).toList := by
    rw [String.toList_join, List.flatMap_map]
    exact Block.flatMap fun setting _ => block_shortEntry environment setting
  have flags : Block (padded shortColumn (boldFlags "-h" .help) ++
      ("Print help (see more with '--help')\n" ++ (padded shortColumn (boldFlags "-V" .version) ++
        "Print version\n"))).toList := by
    have help : KeepsMargin "Print help (see more with '--help')\n".toList := by decide +kernel
    have version : KeepsMargin "Print version\n".toList := by decide +kernel
    have versionEntry : Block ((padded shortColumn (boldFlags "-V" .version)).toList ++
        "Print version\n".toList) :=
      (opens_padded (opens_boldFlags (by simp) .version) _).block_append version
    simp only [String.toList_append]
    exact (opens_padded (opens_boldFlags (by simp) .help) _).block_append
      (help.append versionEntry)
  simpa only [shortHelp, String.append_assoc] using margined_printable entries flags

theorem margined_versionText : Margined 'h' versionText := by
  unfold Margined
  decide +kernel

end CommandLine

/-! ## Bytes

Only a newline is encoded with the byte of one, so the lines of a text begin with the
same characters when it is encoded. -/

namespace Bytes

theorem head?_ofChars {text : List Char} {first : Char} (begins : text.head? = some first) :
    (ofChars text).head? = (String.utf8EncodeChar first).head? := by
  rcases List.head?_eq_some_iff.mp begins with ⟨rest, rfl⟩
  rw [ofChars, List.flatMap_cons, List.head?_append_of_ne_nil _ String.utf8EncodeChar_ne_nil]

def newline : UInt8 := 10

def lineStarts : Bytes := ofChars Text.lineStarts

private theorem eq_newline_of_mem_encode {character : Char}
    (member : newline ∈ String.utf8EncodeChar character) : character = '\n' := by
  have recovered : Char.ofNat character.val.toNat = character := Char.ofNat_toNat character
  have ten : newline.toNat = 10 := rfl
  unfold String.utf8EncodeChar at member
  rw [← recovered]
  generalize character.val.toNat = value at member
  have number : value = 10 := by
    simp only at member
    split at member
    · rw [List.mem_singleton, ← UInt8.toNat_inj, ten, UInt8.toNat_ofNat'] at member
      omega
    · -- Every byte of a longer encoding is at least 128.
      exfalso
      split at member <;> try split at member
      all_goals
        simp only [List.mem_cons, List.not_mem_nil, or_false, ← UInt8.toNat_inj, ten,
          UInt8.toNat_ofNat'] at member
        omega
  exact number ▸ rfl

theorem isChain_of_keepsMargin {text : List Char} (margin : Text.KeepsMargin text) :
    (ofChars text).IsChain fun left right => left = newline → right ∈ lineStarts := by
  induction text with
  | nil => exact List.isChain_nil
  | cons first rest induction =>
      rw [Text.KeepsMargin, List.isChain_cons] at margin
      rw [ofChars, List.flatMap_cons, ← ofChars]
      refine List.IsChain.append ?_ (induction margin.2) ?_
      · by_cases ends : first = '\n'
        · rw [ends]
          exact List.isChain_singleton newline
        · refine List.Pairwise.isChain (List.pairwise_of_forall_mem_list ?_)
          rintro _ member _ _ rfl
          exact absurd (eq_newline_of_mem_encode member) ends
      · rintro _ ends byte begins rfl
        have newlineFirst := eq_newline_of_mem_encode (List.mem_of_getLast? ends)
        cases rest with
        | nil => cases begins
        | cons next later =>
            have starts := margin.1 next rfl newlineFirst
            simp only [Text.lineStarts, List.mem_cons, List.not_mem_nil, or_false] at starts
            rcases starts with rfl | rfl | rfl | rfl <;> cases begins <;> decide

end Bytes

end MemoryProbe
