import MemoryProbe.Bytes.Utf8
import MemoryProbe.Proofs.Text.Marks
import MemoryProbe.Version

namespace MemoryProbe

namespace Text

/-- A text is cut after a number of bytes exactly where one of its starts has that many. -/
theorem takeBytes_eq_some_iff (count : Nat) (text first : List Char) :
    takeBytes count text = some first ↔
      first <+: text ∧ (Bytes.ofChars first).length = count := by
  induction text generalizing count first with
  | nil =>
      rw [takeBytes, List.prefix_nil]
      constructor
      · intro taken
        split at taken
        · cases taken
          exact ⟨rfl, (‹count = 0›).symm⟩
        · cases taken
      · rintro ⟨rfl, rfl⟩
        rfl
  | cons character rest induction =>
      have size := String.length_utf8EncodeChar character
      have positive := character.utf8Size_pos
      have length (others : List Char) : (Bytes.ofChars (character :: others)).length =
          character.utf8Size + (Bytes.ofChars others).length := by
        rw [Bytes.ofChars, List.flatMap_cons, List.length_append, size, ← Bytes.ofChars]
      rw [takeBytes, List.prefix_cons_iff]
      by_cases done : count = 0
      · rw [if_pos done]
        constructor
        · intro taken
          cases taken
          exact ⟨.inl rfl, done.symm⟩
        · rintro ⟨rfl | ⟨others, rfl, -⟩, filled⟩
          · rfl
          · rw [length] at filled
            omega
      · rw [if_neg done]
        by_cases fits : character.utf8Size ≤ count
        · rw [if_pos fits, Option.map_eq_some_iff]
          simp only [induction]
          constructor
          · rintro ⟨others, ⟨starts, filled⟩, rfl⟩
            exact ⟨.inr ⟨others, rfl, starts⟩, by rw [length]; omega⟩
          · rintro ⟨rfl | ⟨others, rfl, starts⟩, filled⟩
            · exact absurd filled.symm done
            · rw [length] at filled
              exact ⟨others, ⟨starts, by omega⟩, rfl⟩
        · rw [if_neg fits]
          constructor
          · intro taken
            cases taken
          · rintro ⟨rfl | ⟨others, rfl, starts⟩, filled⟩
            · exact absurd filled.symm done
            · rw [length] at filled
              omega

end Text

namespace Version

/-! ## The commit in a version -/

/-- A commit is shortened to the start of it that fills eight bytes, where it has such a
start, and is given whole otherwise. -/
inductive IsShortForm (commit : String) : String → Prop where
  | cut {short rest : String} (split : commit = short ++ rest)
      (filled : (Bytes.ofString short).length = 8) : IsShortForm commit short
  | whole (uncut : ∀ short rest, commit = short ++ rest → (Bytes.ofString short).length ≠ 8) :
      IsShortForm commit commit

def IsCommitText : Option String → String → Prop
  | none, text => text = "unknown"
  | some commit, text => IsShortForm commit text

private theorem shortCommit_eq_of_split {commit short rest : String}
    (split : commit = short ++ rest) (filled : (Bytes.ofString short).length = 8) :
    shortCommit commit = short := by
  have starts := Text.exists_append_iff.mp ⟨rest, split⟩
  have taken : Text.takeBytes shortLength commit.toList = some short.toList :=
    (Text.takeBytes_eq_some_iff _ _ _).mpr ⟨starts, filled⟩
  simp only [shortCommit, taken, String.ofList_toList]

private theorem shortCommit_eq_of_uncut {commit : String}
    (uncut : ∀ short rest, commit = short ++ rest → (Bytes.ofString short).length ≠ 8) :
    shortCommit commit = commit := by
  unfold shortCommit
  cases taken : Text.takeBytes shortLength commit.toList with
  | none => rfl
  | some short =>
      rcases (Text.takeBytes_eq_some_iff _ _ _).mp taken with ⟨⟨rest, split⟩, filled⟩
      have whole : commit = String.ofList short ++ String.ofList rest := by
        rw [← String.ofList_append, split, String.ofList_toList]
      refine absurd ?_ (uncut _ _ whole)
      rwa [Bytes.ofString, String.toList_ofList]

theorem isShortForm_shortCommit (commit : String) : IsShortForm commit (shortCommit commit) := by
  by_cases cut : ∃ short rest, commit = short ++ rest ∧ (Bytes.ofString short).length = 8
  · rcases cut with ⟨short, rest, split, filled⟩
    rw [shortCommit_eq_of_split split filled]
    exact .cut split filled
  · have uncut : ∀ short rest, commit = short ++ rest →
        (Bytes.ofString short).length ≠ 8 :=
      fun short rest split filled => cut ⟨short, rest, split, filled⟩
    rw [shortCommit_eq_of_uncut uncut]
    exact .whole uncut

theorem isCommitText_iff (commit : Option String) (text : String) :
    IsCommitText commit text ↔ text = commitText commit := by
  cases commit with
  | none => rfl
  | some commit =>
      constructor
      · rintro (⟨split, filled⟩ | uncut)
        · exact (shortCommit_eq_of_split split filled).symm
        · exact (shortCommit_eq_of_uncut uncut).symm
      · rintro rfl
        exact isShortForm_shortCommit commit

/-! ## Versions read back -/

structure Reading where
  image : String
  commit : Option String
  dirty : Bool
  deriving DecidableEq, Repr

def commitOfEnd? (text : List Char) : Option (List Char × Option (List Char)) :=
  match Text.beforeMark? "-unknown" text with
  | some image => some (image, none)
  | none =>
      let (before, digits) := text.splitAt (text.length - 8)
      (Text.beforeMark? "-" before).map fun image => (image, some digits)

/-- A version is read from its end: the mark of a changed tree, then the commit or the
word for a missing one. What is before it is the image version, whatever that is. -/
def read? (version : String) : Option Reading :=
  let unmarked := Text.beforeMark? "-dirty" version.toList
  (commitOfEnd? (unmarked.getD version.toList)).map fun (image, commit) =>
    ⟨String.ofList image, commit.map String.ofList, unmarked.isSome⟩

def IsHexadecimal (commit : String) : Prop :=
  8 ≤ commit.toList.length ∧ ∀ digit ∈ commit.toList, digit.isHexDigit

/-- Commits in hexadecimal are cut after their first eight digits. -/
def firstDigits (commit : String) : List Char :=
  commit.toList.take 8

namespace IsHexadecimal

variable {commit : String} (hexadecimal : IsHexadecimal commit)

include hexadecimal

private theorem length_firstDigits : (firstDigits commit).length = 8 :=
  List.length_take_of_le hexadecimal.1

private theorem isHexDigit_of_mem {digit : Char} (member : digit ∈ firstDigits commit) :
    digit.isHexDigit :=
  hexadecimal.2 digit (List.mem_of_mem_take member)

theorem shortCommit_eq : shortCommit commit = String.ofList (firstDigits commit) := by
  have split : commit =
      String.ofList (firstDigits commit) ++ String.ofList (commit.toList.drop 8) := by
    rw [← String.ofList_append, firstDigits, List.take_append_drop, String.ofList_toList]
  apply shortCommit_eq_of_split split
  rw [Bytes.ofString, String.toList_ofList,
    Bytes.length_ofChars fun _ member =>
      Bytes.utf8Size_of_isHexDigit (hexadecimal.isHexDigit_of_mem member),
    hexadecimal.length_firstDigits]

/-- A word with a character that is no digit is no end of the digits. -/
theorem beforeMark?_eq_none {mark : String} (fits : mark.toList.length ≤ 8)
    (other : Char) (member : other ∈ mark.toList) (noDigit : other.isHexDigit = false)
    (text : List Char) : Text.beforeMark? mark (text ++ firstDigits commit) = none := by
  apply Text.beforeMark?_eq_none
  · rw [hexadecimal.length_firstDigits]
    exact fits
  · intro ends
    have digit := hexadecimal.isHexDigit_of_mem (ends.mem member)
    rw [noDigit] at digit
    cases digit

end IsHexadecimal

def Readable (commit : Option String) : Prop :=
  ∀ digits ∈ commit, IsHexadecimal digits

variable {commit : Option String} (image : List Char)

/-- The end of a version, with and without a commit. -/
theorem commitOfEnd?_commitText (readable : Readable commit) :
    commitOfEnd? (image ++ '-' :: (commitText commit).toList) =
      some (image, commit.map firstDigits) := by
  cases commit with
  | none =>
      have marked := Text.beforeMark?_append "-unknown" image
      change commitOfEnd? (image ++ "-unknown".toList) = _
      simp only [commitOfEnd?, marked, Option.map_none]
  | some commit =>
      have hexadecimal := readable commit rfl
      have length := hexadecimal.length_firstDigits
      have known : Text.beforeMark? "-unknown" (image ++ ['-'] ++ firstDigits commit) = none :=
        hexadecimal.beforeMark?_eq_none (by decide) 'k' (by decide) (by decide) _
      have front : (image ++ ['-'] ++ firstDigits commit).splitAt
          ((image ++ ['-'] ++ firstDigits commit).length - 8) =
            (image ++ "-".toList, firstDigits commit) := by
        rw [List.length_append, length, Nat.add_sub_cancel, List.splitAt_eq,
          List.take_left, List.drop_left]
        rfl
      have text : (commitText (some commit)).toList = firstDigits commit := by
        change (shortCommit commit).toList = _
        rw [hexadecimal.shortCommit_eq, String.toList_ofList]
      rw [text, List.append_cons]
      simp only [commitOfEnd?, known, front, Text.beforeMark?_append, Option.map_some]

private theorem not_dirty_commitText (readable : Readable commit) :
    Text.beforeMark? "-dirty" (image ++ '-' :: (commitText commit).toList) = none := by
  cases commit with
  | none =>
      change Text.beforeMark? "-dirty" (image ++ "-unknown".toList) = none
      exact Text.beforeMark?_eq_none (by decide) (by decide) image
  | some commit =>
      have hexadecimal := readable commit rfl
      change Text.beforeMark? "-dirty" (image ++ '-' :: (shortCommit commit).toList) = none
      rw [hexadecimal.shortCommit_eq, String.toList_ofList, List.append_cons]
      exact hexadecimal.beforeMark?_eq_none (by decide) 'y' (by decide) (by decide) _

theorem read?_render (image : String) (readable : Readable commit) (dirty : Bool) :
    read? (render image commit dirty) =
      some ⟨image, commit.map fun digits => String.ofList (firstDigits digits), dirty⟩ := by
  have commitRead := commitOfEnd?_commitText image.toList readable
  have clean := not_dirty_commitText image.toList readable
  have text : (image ++ "-" ++ commitText commit).toList =
      image.toList ++ '-' :: (commitText commit).toList := by
    simp
  cases dirty with
  | true =>
      have marked : (render image commit true).toList =
          (image.toList ++ '-' :: (commitText commit).toList) ++ "-dirty".toList := by
        rw [render, String.toList_append, text, dirtyText, if_pos rfl]
      simp only [read?, marked, Text.beforeMark?_append, Option.getD_some, commitRead,
        Option.map_some, Option.map_map, String.ofList_toList, Option.isSome_some]
      rfl
  | false =>
      have unmarked : (render image commit false).toList =
          image.toList ++ '-' :: (commitText commit).toList := by
        rw [render, String.toList_append, text, dirtyText, if_neg Bool.false_ne_true]
        exact List.append_nil _
      simp only [read?, unmarked, clean, Option.getD_none, commitRead, Option.map_some,
        Option.map_map, String.ofList_toList, Option.isSome_none]
      rfl

/-- A version is the image version, the one text that its commit has, and a mark if and only
if the tree is changed. With no commit, or one in hexadecimal, the image version, the first
eight digits and the mark are read back from it, whatever the image version is made of. -/
theorem version_identifies_build :
    (∀ image commit dirty, ∃ text, (∀ other, IsCommitText commit other ↔ other = text) ∧
      render image commit dirty = image ++ "-" ++ text ++ if dirty then "-dirty" else "") ∧
    ∀ image commit dirty, Readable commit →
      read? (render image commit dirty) =
        some ⟨image, commit.map fun digits => String.ofList (firstDigits digits), dirty⟩ :=
  ⟨fun _ commit _ => ⟨commitText commit, isCommitText_iff commit, rfl⟩,
    fun image _ dirty readable => read?_render image readable dirty⟩

theorem version_identifies_build_misleading_image :
    Readable (some "0123456789abcdef0123") ∧
      read? (render "v1-unknown-dirty" (some "0123456789abcdef0123") false) =
        some ⟨"v1-unknown-dirty", some "01234567", false⟩ := by
  have readable : Readable (some "0123456789abcdef0123") := by
    rintro digits ⟨⟩
    have all : "0123456789abcdef0123".toList.all Char.isHexDigit = true := by decide
    exact ⟨by decide, List.all_eq_true.mp all⟩
  exact ⟨readable, version_identifies_build.2 _ _ _ readable⟩

end Version

end MemoryProbe
