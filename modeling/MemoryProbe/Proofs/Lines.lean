import MemoryProbe.Bytes.Utf8

namespace MemoryProbe.Text

def joined (pieces : List String) : List Char :=
  pieces.flatMap String.toList

@[simp] theorem joined_nil : joined [] = [] := rfl

@[simp] theorem joined_cons (piece : String) (rest : List String) :
    joined (piece :: rest) = piece.toList ++ joined rest :=
  List.flatMap_cons

@[simp] theorem joined_append (left right : List String) :
    joined (left ++ right) = joined left ++ joined right :=
  List.flatMap_append

/-! ## Texts of lines -/

/-- Every line is ended by a newline, the last one too. -/
def ended (lines : List (List Char)) : List Char :=
  lines.flatMap (· ++ ['\n'])

def endedLines? (text : List Char) : Option (List (List Char)) :=
  let parts := text.splitOn '\n'
  if parts.getLast? = some [] then some parts.dropLast else none

theorem ended_cons (line : List Char) (rest : List (List Char)) :
    ended (line :: rest) = line ++ '\n' :: ended rest := by
  rw [ended, List.flatMap_cons, List.append_assoc, List.singleton_append, ← ended]

theorem ended_append (front back : List (List Char)) :
    ended (front ++ back) = ended front ++ ended back :=
  List.flatMap_append

theorem ended_flatMap {α : Type} (values : List α) (lines : α → List (List Char)) :
    ended (values.flatMap lines) = values.flatMap fun value => ended (lines value) :=
  List.flatMap_assoc

/-- A line with newlines in it is read as several. -/
theorem splitOn_ended (lines : List (List Char)) :
    (ended lines).splitOn '\n' = lines.flatMap (·.splitOn '\n') ++ [[]] := by
  induction lines with
  | nil => rfl
  | cons line rest induction =>
      rw [ended_cons, List.splitOn_append_cons_self, induction, List.flatMap_cons,
        List.append_assoc]

theorem endedLines?_ended_eq_flatMap (lines : List (List Char)) :
    endedLines? (ended lines) = some (lines.flatMap (·.splitOn '\n')) := by
  rw [endedLines?, splitOn_ended]
  simp

private theorem flatMap_splitOn_of_free {lines : List (List Char)}
    (free : ∀ line ∈ lines, '\n' ∉ line) :
    lines.flatMap (·.splitOn '\n') = lines := by
  induction lines with
  | nil => rfl
  | cons line rest induction =>
      have freeFirst := free line List.mem_cons_self
      have freeRest := fun other member => free other (List.mem_cons_of_mem line member)
      rw [List.flatMap_cons, List.splitOn_eq_singleton freeFirst, induction freeRest,
        List.singleton_append]

/-- Lines that hold no newline are told apart again by the newlines alone. -/
theorem endedLines?_ended {lines : List (List Char)} (free : ∀ line ∈ lines, '\n' ∉ line) :
    endedLines? (ended lines) = some lines := by
  rw [endedLines?_ended_eq_flatMap, flatMap_splitOn_of_free free]

theorem count_ended {lines : List (List Char)} (free : ∀ line ∈ lines, '\n' ∉ line) :
    (ended lines).count '\n' = lines.length := by
  induction lines with
  | nil => rfl
  | cons line rest induction =>
      have freeFirst := List.count_eq_zero.mpr (free line List.mem_cons_self)
      have freeRest := fun other member => free other (List.mem_cons_of_mem line member)
      rw [ended_cons, List.count_append, freeFirst, List.count_cons_self, induction freeRest,
        List.length_cons, Nat.zero_add]

theorem exists_first_later (text : List Char) :
    ∃ first later, text.splitOn '\n' = first :: later :=
  List.exists_cons_of_ne_nil (List.splitOn_ne_nil '\n' text)

variable {text first : List Char} {later : List (List Char)}

theorem splitOn_append_of_not_mem {front : List Char} (free : '\n' ∉ front)
    (split : text.splitOn '\n' = first :: later) :
    (front ++ text).splitOn '\n' = (front ++ first) :: later := by
  induction front with
  | nil => exact split
  | cons character rest induction =>
      have other : character ≠ '\n' := fun same => free (same ▸ List.mem_cons_self)
      have freeRest : '\n' ∉ rest := fun member => free (List.mem_cons_of_mem character member)
      rw [List.cons_append, List.splitOn_cons_eq_if_modifyHead, if_neg (by simpa using other),
        induction freeRest]
      rfl

theorem later_eq_nil_iff (split : text.splitOn '\n' = first :: later) :
    later = [] ↔ '\n' ∉ text := by
  constructor
  · intro single broken
    rcases List.append_of_mem broken with ⟨before, after, rfl⟩
    rw [List.splitOn_append_cons_self, single] at split
    have lengths := congrArg List.length split
    have front := List.length_pos_iff.mpr (List.splitOn_ne_nil '\n' before)
    have back := List.length_pos_iff.mpr (List.splitOn_ne_nil '\n' after)
    rw [List.length_append, List.length_singleton] at lengths
    omega
  · intro free
    rw [List.splitOn_eq_singleton free] at split
    exact (List.cons.inj split).2.symm

end MemoryProbe.Text
