import MemoryProbe.BuildScript
import MemoryProbe.Proofs.Lines
import MemoryProbe.Proofs.Text.Marks
import MemoryProbe.Text.Blank
import Mathlib.Data.List.DropRight

namespace MemoryProbe

namespace Text

def Solid (mark : List Char) : Prop :=
  mark ≠ [] ∧ dropBlanks mark = mark ∧ dropBlanks mark.reverse = mark.reverse

instance (mark : List Char) : Decidable (Solid mark) :=
  inferInstanceAs (Decidable (_ ∧ _))

/-- Trimming a text that begins with a mark without blanks at its ends drops only blanks
at the end of what follows the mark. -/
theorem Solid.trim_append {mark : List Char} (solid : Solid mark) (rest : List Char) :
    trim (mark ++ rest) = mark ++ rest.rdropWhile isBlank := by
  rcases solid with ⟨nonempty, front, back⟩
  have started : dropBlanks (mark ++ rest) = mark ++ rest := by
    unfold dropBlanks at front ⊢
    rw [List.dropWhile_append, front, if_neg (by simpa using nonempty)]
  have ended : dropBlanks (rest.reverse ++ mark.reverse) =
      rest.reverse.dropWhile isBlank ++ mark.reverse := by
    unfold dropBlanks at back ⊢
    rw [List.dropWhile_append, back]
    split
    · have none : rest.reverse.dropWhile isBlank = [] := List.isEmpty_iff.mp ‹_›
      rw [none, List.nil_append]
    · rfl
  rw [trim, started, List.reverse_append, ended, List.reverse_append, List.reverse_reverse,
    List.rdropWhile]

end Text

namespace BuildScript

/-! ## What the build reads -/

def versionMark : String :=
  "cargo:rustc-env=IMAGE_VERSION="

def rerunLine : String :=
  "cargo:rerun-if-env-changed=VERSION"

/-- The build takes an output line by line, and may drop the blanks at the ends of a
line. -/
def cleaned (trims : Bool) (line : List Char) : List Char :=
  if trims then Text.trim line else line

/-- A line that begins with the mark of the image version sets it to what follows. -/
def versionIn? (trims : Bool) (line : List Char) : Option (List Char) :=
  Text.afterMark? versionMark (cleaned trims line)

def versionsIn (trims : Bool) (lines : List (List Char)) : List (List Char) :=
  lines.filterMap (versionIn? trims)

/-- What is left of the end of a line. -/
def kept (trims : Bool) (text : List Char) : List Char :=
  if trims then text.rdropWhile Text.isBlank else text

section

variable (trims : Bool)

private theorem cleaned_append {mark : List Char} (solid : Text.Solid mark) (rest : List Char) :
    cleaned trims (mark ++ rest) = mark ++ kept trims rest := by
  cases trims with
  | false => rfl
  | true => exact solid.trim_append rest

private theorem versionIn?_mark (value : List Char) :
    versionIn? trims (versionMark.toList ++ value) = some (kept trims value) := by
  rw [versionIn?, cleaned_append trims (by decide), Text.afterMark?_append]

/-- A line that begins otherwise sets no version. -/
theorem versionIn?_eq_none {start : List Char} (solid : Text.Solid start)
    (other : ¬start <+: versionMark.toList) (apart : ¬versionMark.toList <+: start)
    (rest : List Char) : versionIn? trims (start ++ rest) = none := by
  rw [versionIn?, cleaned_append trims solid, Option.eq_none_iff_forall_ne_some]
  intro value found
  rcases List.dropPrefix?_eq_some_iff.mp found with ⟨front, split, same⟩
  rw [eq_of_beq same] at split
  have begins : versionMark.toList <+: start ++ kept trims rest := ⟨value, split.symm⟩
  rcases List.prefix_or_prefix_of_prefix (List.prefix_append start _) begins with
    inMark | inStart
  · exact other inMark
  · exact apart inStart

private theorem versionIn?_rerunLine : versionIn? trims rerunLine.toList = none := by
  have solid : Text.Solid rerunLine.toList := by decide
  have unset := versionIn?_eq_none trims solid (by decide) (by decide) []
  rwa [List.append_nil] at unset

private theorem kept_eq_self_iff (text : List Char) :
    kept trims text = text ↔
      (trims = true → ∀ last ∈ text.getLast?, Text.isBlank last = false) := by
  cases trims with
  | false => simp [kept]
  | true =>
      change text.rdropWhile Text.isBlank = text ↔ _
      rw [List.rdropWhile_eq_self_iff]
      constructor
      · intro solid _ last ends
        rcases List.getLast?_eq_some_iff.mp ends with ⟨front, rfl⟩
        simpa using solid (by simp)
      · intro solid nonempty
        simpa using solid rfl _ (List.getLast?_eq_some_getLast nonempty)

end

/-! ## The look at the checkout -/

/-- What the look at the checkout prints is lines of its own, as many as it breaks into. -/
def GitStep.ownLines (step : GitStep) : List (List Char) :=
  step.lines.flatMap fun line => line.toList.splitOn '\n'

/-- The look sets no version where none of its lines begins with the mark, as with a
checkout whose names break no line. -/
def GitStep.SetsNoVersion (step : GitStep) : Prop :=
  ∀ trims, ∀ line ∈ step.ownLines, versionIn? trims line = none

theorem GitStep.SetsNoVersion.versionsIn_append {step : GitStep} (own : step.SetsNoVersion)
    (trims : Bool) (lines : List (List Char)) :
    versionsIn trims (step.ownLines ++ lines) = versionsIn trims lines := by
  have none : versionsIn trims step.ownLines = [] :=
    List.filterMap_eq_nil_iff.mpr (own trims)
  rw [versionsIn, List.filterMap_append, ← versionsIn, none, List.nil_append, versionsIn]

private theorem toList_setVariable (name value : String) :
    (setVariable name value).toList =
      "cargo:rustc-env=".toList ++ (name.toList ++ ("=".toList ++ value.toList)) := by
  change ("cargo:rustc-env=" ++ name ++ "=" ++ value).toList = _
  simp only [String.toList_append, List.append_assoc]

private theorem Facts.begins_of_mem_lines {facts : Facts} {line : String}
    (member : line ∈ facts.lines) :
    "cargo:rustc-env=VERGEN_GIT_".toList <+: line.toList := by
  have joined : "cargo:rustc-env=VERGEN_GIT_".toList =
      "cargo:rustc-env=".toList ++ "VERGEN_GIT_".toList := by decide
  have begins (name value : String) : "cargo:rustc-env=VERGEN_GIT_".toList <+:
      (setVariable ("VERGEN_GIT_" ++ name) value).toList := by
    refine ⟨name.toList ++ ("=".toList ++ value.toList), ?_⟩
    rw [toList_setVariable, joined, String.toList_append, List.append_assoc, List.append_assoc]
  rcases List.mem_cons.mp member with rfl | member
  · exact begins "BRANCH" facts.branch
  rcases List.mem_cons.mp member with rfl | member
  · exact begins "DESCRIBE" facts.description
  rcases List.mem_cons.mp member with rfl | member
  · exact begins "SHA" facts.commit
  · rw [List.mem_singleton.mp member]
    exact begins "DIRTY" _

private theorem begins_warning (message : String) :
    "cargo:warning=vergen:".toList <+: (warning message).toList := by
  have spaced : "cargo:warning=vergen: ".toList = "cargo:warning=vergen:".toList ++ [' '] := by
    decide
  refine ⟨' ' :: message.toList, ?_⟩
  change _ = ("cargo:warning=vergen: " ++ message).toList
  rw [String.toList_append, spaced, List.append_assoc, List.singleton_append]

/-- No name in a checkout gets to be a line of its own unless it breaks one. -/
theorem gitStep_setsNoVersion {checkout : Checkout}
    (free : ∀ line ∈ (gitStep checkout).lines, '\n' ∉ line.toList) :
    (gitStep checkout).SetsNoVersion := by
  intro trims line member
  rcases List.mem_flatMap.mp member with ⟨printed, present, piece⟩
  rw [List.splitOn_eq_singleton (free printed present), List.mem_singleton] at piece
  subst piece
  cases found : facts checkout with
  | error error =>
      simp only [gitStep, found, GitStep.lines, List.nil_append, Option.toList_some,
        List.map_singleton, List.mem_singleton] at present
      rcases begins_warning error.message with ⟨rest, split⟩
      rw [present, ← split]
      exact versionIn?_eq_none trims (by decide) (by decide) (by decide) rest
  | ok facts =>
      simp only [gitStep, found, GitStep.lines, Option.toList_none, List.map_nil,
        List.append_nil] at present
      rcases Facts.begins_of_mem_lines present with ⟨rest, split⟩
      rw [← split]
      exact versionIn?_eq_none trims (by decide) (by decide) (by decide) rest

/-- The image version is what is set, if that is text, and otherwise a word that stands
for no version in particular. -/
inductive IsImageVersion : Option Bytes → String → Prop where
  | unset : IsImageVersion none "latest"
  | unreadable {bytes : Bytes} (noText : ∀ text, bytes ≠ Bytes.ofString text) :
      IsImageVersion (some bytes) "latest"
  | text (text : String) : IsImageVersion (some (Bytes.ofString text)) text

theorem isImageVersion_iff (version : Option Bytes) (value : String) :
    IsImageVersion version value ↔ value = imageVersion version := by
  have read (bytes : Bytes) (text : String) :
      Bytes.toString? bytes = some text ↔ bytes = Bytes.ofString text :=
    Bytes.toString?_eq_some_iff bytes text
  constructor
  · intro meant
    cases meant with
    | unset => rfl
    | @unreadable bytes noText =>
        have unread : Bytes.toString? bytes = none :=
          Option.eq_none_iff_forall_ne_some.mpr fun text found =>
            noText text ((read bytes text).mp found)
        rw [imageVersion, Option.bind_some, unread, Option.getD_none]
    | text text =>
        rw [imageVersion, Option.bind_some, Bytes.toString?_ofString, Option.getD_some]
  · intro same
    subst same
    cases version with
    | none => exact .unset
    | some bytes =>
        cases found : Bytes.toString? bytes with
        | none =>
            rw [imageVersion, Option.bind_some, found, Option.getD_none]
            refine .unreadable fun text encoded => ?_
            rw [(read bytes text).mpr encoded] at found
            cases found
        | some text =>
            rw [imageVersion, Option.bind_some, found, Option.getD_some,
              (read bytes text).mp found]
            exact .text text

private theorem toList_output (step : GitStep) (version : Option Bytes) :
    (run step version).output.toList =
      Text.ended ((instructions step version).map String.toList) := by
  simp only [run, String.toList_join, Text.ended, List.flatMap_map, String.toList_append]
  rfl

theorem lines_run (step : GitStep) {version : Option Bytes} {first : List Char}
    {later : List (List Char)}
    (split : (imageVersion version).toList.splitOn '\n' = first :: later) :
    Text.endedLines? (run step version).output.toList =
      some (step.ownLines ++
        ((versionMark.toList ++ first) :: later ++ [rerunLine.toList])) := by
  have marked : (setVariable "IMAGE_VERSION" (imageVersion version)).toList =
      versionMark.toList ++ (imageVersion version).toList := by
    have mark : versionMark.toList =
        "cargo:rustc-env=".toList ++ ("IMAGE_VERSION".toList ++ "=".toList) := by decide
    rw [toList_setVariable, mark, List.append_assoc, List.append_assoc]
  have broken : (versionMark.toList ++ (imageVersion version).toList).splitOn '\n' =
      (versionMark.toList ++ first) :: later :=
    Text.splitOn_append_of_not_mem (by decide) split
  have whole : rerunLine.toList.splitOn '\n' = [rerunLine.toList] :=
    List.splitOn_eq_singleton (by decide)
  have printed : [setVariable "IMAGE_VERSION" (imageVersion version),
      "cargo:rerun-if-env-changed=VERSION"].flatMap (fun line => line.toList.splitOn '\n') =
        (versionMark.toList ++ first) :: later ++ [rerunLine.toList] := by
    rw [List.flatMap_cons, marked, broken, List.flatMap_singleton, ← whole]
    rfl
  rw [toList_output, Text.endedLines?_ended_eq_flatMap, List.flatMap_map, instructions,
    List.flatMap_append, printed, GitStep.ownLines]

theorem versionsIn_printed {step : GitStep} (own : step.SetsNoVersion) (trims : Bool)
    (first : List Char) (later : List (List Char)) :
    versionsIn trims (step.ownLines ++
        ((versionMark.toList ++ first) :: later ++ [rerunLine.toList])) =
      kept trims first :: versionsIn trims later := by
  have ending : versionsIn trims [rerunLine.toList] = [] :=
    List.filterMap_eq_nil_iff.mpr fun line member => by
      rw [List.mem_singleton.mp member, versionIn?_rerunLine]
  rw [own.versionsIn_append, List.cons_append, versionsIn, List.filterMap_cons_some
    (versionIn?_mark trims first), List.filterMap_append, ← versionsIn, ← versionsIn, ending,
    List.append_nil]

/-! ## Versions handed over -/

/-- A value is handed over if it is the one that is set, in a line after those of the look
at the checkout and before the one about running again, and the script succeeds. -/
structure HandsOver (trims : Bool) (step : GitStep) (value : String) (finished : Run) :
    Prop where
  exitCode : finished.exitCode = 0
  lines : Text.endedLines? finished.output.toList =
    some (step.ownLines ++ [versionMark.toList ++ value.toList, rerunLine.toList])
  versions : (Text.endedLines? finished.output.toList).map (versionsIn trims) =
    some [value.toList]

variable {step : GitStep} (own : step.SetsNoVersion) (version : Option Bytes)

include own

private theorem handsOver_of_free (trims : Bool) (free : '\n' ∉ (imageVersion version).toList)
    (solid : kept trims (imageVersion version).toList = (imageVersion version).toList) :
    HandsOver trims step (imageVersion version) (run step version) := by
  have lines := lines_run step (List.splitOn_eq_singleton free)
  refine ⟨rfl, lines, ?_⟩
  rw [lines, Option.map_some, versionsIn_printed own, solid]
  rfl

theorem handsOver_iff (trims : Bool) :
    HandsOver trims step (imageVersion version) (run step version) ↔
      '\n' ∉ (imageVersion version).toList ∧
        (trims = true →
          ∀ last ∈ (imageVersion version).toList.getLast?, Text.isBlank last = false) := by
  rw [← kept_eq_self_iff]
  constructor
  · intro handed
    rcases Text.exists_first_later (imageVersion version).toList with ⟨first, later, split⟩
    have lines := lines_run step split
    have same := Option.some.inj (lines.symm.trans handed.lines)
    have lengths := congrArg List.length (List.append_cancel_left same)
    have single : later = [] := by
      rw [List.length_append, List.length_cons, List.length_singleton, List.length_cons,
        List.length_singleton] at lengths
      exact List.eq_nil_of_length_eq_zero (by omega)
    have free := (Text.later_eq_nil_iff split).mp single
    have versions := handed.versions
    rw [lines, Option.map_some, versionsIn_printed own, Option.some_inj] at versions
    rw [List.splitOn_eq_singleton free] at split
    have whole := (List.cons.inj split).1
    rw [← whole] at versions
    exact ⟨free, (List.cons.inj versions).1⟩
  · intro fits
    exact handsOver_of_free own version trims fits.1 fits.2

/-- The script succeeds whatever the look at the checkout came to. The image version, which
is what is set if that is text and `latest` otherwise, stands after the mark in its output,
between the lines of that look and the one about running again; its later lines are lines
of the output, and those with a mark set the version again. So it is handed over, by itself
and as it is, if and only if no newline is in it, and no blank at its end where these are
dropped. -/
theorem image_version_handed_over :
    ∃ value first later,
      (∀ other, IsImageVersion version other ↔ other = value) ∧
      value.toList.splitOn '\n' = first :: later ∧
      (run step version).exitCode = 0 ∧
      Text.endedLines? (run step version).output.toList =
        some (step.ownLines ++
          ((versionMark.toList ++ first) :: later ++ [rerunLine.toList])) ∧
      ∀ trims,
        (Text.endedLines? (run step version).output.toList).map (versionsIn trims) =
            some (kept trims first :: versionsIn trims later) ∧
          (HandsOver trims step value (run step version) ↔
            '\n' ∉ value.toList ∧
              (trims = true → ∀ last ∈ value.toList.getLast?, Text.isBlank last = false)) := by
  rcases Text.exists_first_later (imageVersion version).toList with ⟨first, later, split⟩
  have lines := lines_run step split
  refine ⟨imageVersion version, first, later, isImageVersion_iff version, split, rfl, lines,
    fun trims => ⟨?_, handsOver_iff own version trims⟩⟩
  rw [lines, Option.map_some, versionsIn_printed own]

omit own

private theorem missing_setsNoVersion : (gitStep (.missing "DIR")).SetsNoVersion :=
  gitStep_setsNoVersion (by decide +kernel)

/-- A version that reads like a line of the script. -/
def misleading : String :=
  "cargo:rustc-env=IMAGE_VERSION=2"

theorem image_version_handed_over_misleading :
    (gitStep (.missing "DIR")).SetsNoVersion ∧
      ∀ trims, HandsOver trims (gitStep (.missing "DIR")) misleading
        (run (gitStep (.missing "DIR")) (some (Bytes.ofString misleading))) := by
  refine ⟨missing_setsNoVersion, fun trims => ?_⟩
  rcases image_version_handed_over missing_setsNoVersion (some (Bytes.ofString misleading)) with
    ⟨value, first, later, meant, split, exits, lines, reads⟩
  have same := (meant misleading).mp (.text misleading)
  subst same
  refine (reads trims).2.mpr ⟨by decide, fun _ last ends => ?_⟩
  have digit : misleading.toList.getLast? = some '2' := by decide
  rw [digit, Option.mem_some] at ends
  subst ends
  decide

/-- A version that has such a line. -/
def injecting : String :=
  "1\n" ++ misleading

theorem injecting_sets_two_versions :
    (gitStep (.missing "DIR")).SetsNoVersion ∧
      IsImageVersion (some (Bytes.ofString injecting)) injecting ∧
      ∀ trims,
        (Text.endedLines? (run (gitStep (.missing "DIR"))
          (some (Bytes.ofString injecting))).output.toList).map (versionsIn trims) =
            some ["1".toList, "2".toList] ∧
        ¬HandsOver trims (gitStep (.missing "DIR")) injecting
          (run (gitStep (.missing "DIR")) (some (Bytes.ofString injecting))) := by
  refine ⟨missing_setsNoVersion, .text injecting, fun trims => ?_⟩
  have same : imageVersion (some (Bytes.ofString injecting)) = injecting :=
    ((isImageVersion_iff _ _).mp (.text injecting)).symm
  have split : (imageVersion (some (Bytes.ofString injecting))).toList.splitOn '\n' =
      ["1".toList, misleading.toList] := by
    rw [same]
    decide +kernel
  have read : (Text.endedLines? (run (gitStep (.missing "DIR"))
      (some (Bytes.ofString injecting))).output.toList).map (versionsIn trims) =
        some ["1".toList, "2".toList] := by
    rw [lines_run _ split, Option.map_some, versionsIn_printed missing_setsNoVersion]
    revert trims
    decide +kernel
  refine ⟨read, fun handed => ?_⟩
  have two := congrArg (Option.map List.length) (read.symm.trans handed.versions)
  cases two

end BuildScript

end MemoryProbe
