import MemoryProbe.Proofs.Utf8
import Mathlib.Data.List.Basic

namespace MemoryProbe

namespace Text

/-- What follows a mark that a text begins with. -/
def afterMark? (mark : String) (text : List Char) : Option (List Char) :=
  text.dropPrefix? mark.toList

/-- What comes before a mark that a text ends with. -/
def beforeMark? (mark : String) (text : List Char) : Option (List Char) :=
  text.dropSuffix? mark.toList

@[simp] theorem afterMark?_append (mark : String) (rest : List Char) :
    afterMark? mark (mark.toList ++ rest) = some rest :=
  List.dropPrefix?_append_of_beq rest (beq_self_eq_true mark.toList)

@[simp] theorem beforeMark?_append (mark : String) (text : List Char) :
    beforeMark? mark (text ++ mark.toList) = some text :=
  List.dropSuffix?_eq_some_iff.mpr ⟨mark.toList, rfl, beq_self_eq_true mark.toList⟩

/-- A text with an ending at least as long as a mark ends with the mark only if the ending
does. -/
theorem beforeMark?_eq_none {mark : String} {ending : List Char}
    (fits : mark.toList.length ≤ ending.length) (different : ¬mark.toList <:+ ending)
    (text : List Char) : beforeMark? mark (text ++ ending) = none := by
  rw [Option.eq_none_iff_forall_ne_some]
  intro before found
  rcases List.dropSuffix?_eq_some_iff.mp found with ⟨last, split, same⟩
  rw [eq_of_beq same] at split
  have marked : mark.toList <:+ text ++ ending := ⟨before, split.symm⟩
  exact different (List.suffix_of_suffix_length_le marked (List.suffix_append text ending) fits)

/-- Whether a text begins with another shows in its characters. -/
theorem exists_append_iff {start text : String} :
    (∃ rest, text = start ++ rest) ↔ start.toList <+: text.toList := by
  constructor
  · rintro ⟨rest, rfl⟩
    rw [String.toList_append]
    exact List.prefix_append start.toList rest.toList
  · rintro ⟨rest, split⟩
    refine ⟨String.ofList rest, String.toList_inj.mp ?_⟩
    rw [String.toList_append, String.toList_ofList, split]

end Text

theorem Bytes.ofString_prefix_iff {start text : String} :
    ofString start <+: ofString text ↔ ∃ rest, text = start ++ rest := by
  constructor
  · rintro ⟨rest, whole⟩
    have scanned : start.toList.map some ++ scan rest = text.toList.map some := by
      rw [← scan_ofChars_append, ← scan_ofChars, ← ofString, ← ofString, whole]
    rw [Text.exists_append_iff,
      ← List.prefix_map_iff_of_injective (fun _ _ => Option.some.inj)]
    exact ⟨_, scanned⟩
  · rintro ⟨rest, rfl⟩
    exact ⟨ofString rest, (ofString_append start rest).symm⟩

end MemoryProbe
