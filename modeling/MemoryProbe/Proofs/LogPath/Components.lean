import MemoryProbe.Proofs.LogPath
import MemoryProbe.Proofs.Utf8

namespace MemoryProbe.LogPath

/-! ## Components of a path -/

/-- The parts of a path between its slashes, without those that are empty or a single
dot. An empty part at the start of a longer path is the root, and a dot at the start is
where the path begins. -/
inductive Component where
  | root
  | here
  | parent
  | name (bytes : Bytes)
  deriving DecidableEq, Repr

def Component.ofPart? : Bytes → Option Component
  | [] => none
  | [46] => none
  | [46, 46] => some .parent
  | part => some (.name part)

def origin : List Bytes → List Component
  | [] :: _ :: _ => [.root]
  | [46] :: _ => [.here]
  | _ => []

def components (path : Bytes) : List Component :=
  origin (path.splitOn slash) ++ (path.splitOn slash).filterMap Component.ofPart?

example : components (Bytes.ofString "/a//./../b/") =
    [.root, .name (Bytes.ofString "a"), .parent, .name (Bytes.ofString "b")] := by
  decide +kernel

/-- Exactly the idle parts are no components. -/
theorem ofPart?_eq_none_iff (part : Bytes) : Component.ofPart? part = none ↔ isIdle part := by
  unfold Component.ofPart? isIdle
  split <;> simp_all [dot]

theorem ofPart?_eq_name_iff (part bytes : Bytes) :
    Component.ofPart? part = some (.name bytes) ↔
      isIdle part = false ∧ part ≠ parent ∧ part = bytes := by
  unfold Component.ofPart? isIdle parent
  split <;> simp_all [dot]

theorem filterMap_reverse_dropWhile (back : List Bytes) :
    (back.dropWhile isIdle).reverse.filterMap Component.ofPart? =
      back.reverse.filterMap Component.ofPart? := by
  have idle : (back.takeWhile isIdle).filterMap Component.ofPart? = [] :=
    List.filterMap_eq_nil_iff.mpr fun part member =>
      (ofPart?_eq_none_iff part).mpr (List.mem_takeWhile_imp member)
  rw [List.filterMap_reverse, List.filterMap_reverse, List.reverse_inj]
  conv => rhs; rw [← List.takeWhile_append_dropWhile (p := isIdle) (l := back)]
  rw [List.filterMap_append, idle, List.nil_append]

/-! ## The start of a path -/

/-- The start is settled by the first character, or by the first two where the first is
a dot. -/
def leadComponents : Bytes → List Component
  | [47] => [.root]
  | [46] => [.here]
  | _ => []

def AtSlash (rest : Bytes) : Prop :=
  rest = [] ∨ ∃ others, rest = slash :: others

theorem lead_cases (path : Bytes) :
    (lead path = [slash] ∧ ∃ rest, path = slash :: rest) ∨
      (lead path = [dot] ∧ ∃ rest, path = dot :: rest ∧ AtSlash rest) ∨
      (lead path = [] ∧ path = []) ∨
      (lead path = [] ∧ ∃ first rest, path = first :: rest ∧ first ≠ slash ∧
        (first = dot → ¬AtSlash rest)) := by
  match path with
  | [] => exact .inr (.inr (.inl ⟨rfl, rfl⟩))
  | first :: rest =>
      by_cases root : first = slash
      · subst root
        exact .inl ⟨rfl, rest, rfl⟩
      · by_cases here : first = dot ∧ AtSlash rest
        · rcases here with ⟨rfl, rfl | ⟨others, rfl⟩⟩
          · exact .inr (.inl ⟨rfl, [], rfl, .inl rfl⟩)
          · exact .inr (.inl ⟨rfl, _, rfl, .inr ⟨others, rfl⟩⟩)
        · refine .inr (.inr (.inr ⟨?_, first, rest, rfl, root, fun same atSlash =>
            here ⟨same, atSlash⟩⟩))
          unfold lead
          split
          · simp_all [slash]
          · simp_all [dot, AtSlash]
          · simp_all [dot, AtSlash, slash]
          · rfl

theorem lead_append_drop (path : Bytes) : lead path ++ path.drop (lead path).length = path := by
  rcases lead_cases path with ⟨starts, rest, rfl⟩ | ⟨starts, rest, rfl, -⟩ | ⟨starts, rfl⟩ |
    ⟨starts, -⟩
  all_goals rw [starts]; rfl

theorem lead_append {start rest : Bytes} (nonempty : start ≠ [])
    (apart : start = [dot] → AtSlash rest) : lead (start ++ rest) = lead start := by
  rcases start with _ | ⟨first, _ | ⟨second, others⟩⟩
  · exact absurd rfl nonempty
  · by_cases here : first = dot
    · subst here
      rcases apart rfl with rfl | ⟨others, rfl⟩ <;> rfl
    · unfold lead
      split <;> simp_all [dot]
  · unfold lead
    split <;> simp_all

/-! ## Parts between slashes -/

private theorem slash_not_mem_of_mem_splitOn {path part : Bytes}
    (member : part ∈ path.splitOn slash) :
    slash ∉ part := by
  induction path generalizing part with
  | nil => simp_all
  | cons first rest induction =>
      rw [List.splitOn_cons_eq_if_modifyHead] at member
      split at member
      · rcases List.mem_cons.mp member with rfl | member
        · exact List.not_mem_nil
        · exact induction member
      · have other : first ≠ slash := by simpa using ‹¬(first == slash) = true›
        rcases List.exists_cons_of_ne_nil (List.splitOn_ne_nil slash rest) with
          ⟨head, tail, split⟩
        rw [split] at member induction
        rcases List.mem_cons.mp member with rfl | member
        · have headFree := induction List.mem_cons_self
          exact List.not_mem_cons_of_ne_of_not_mem other.symm headFree
        · exact induction (List.mem_cons_of_mem head member)

theorem slash_not_mem_of_mem_partsBack {path part : Bytes} (member : part ∈ partsBack path) :
    slash ∉ part :=
  slash_not_mem_of_mem_splitOn (List.mem_reverse.mp member)

theorem intercalate_append {before after : List Bytes} (nonempty : before ≠ [])
    (more : after ≠ []) :
    [slash].intercalate (before ++ after) =
      [slash].intercalate before ++ slash :: [slash].intercalate after := by
  induction before with
  | nil => exact absurd rfl nonempty
  | cons first rest induction =>
      by_cases single : rest = []
      · rw [single, List.singleton_append, List.intercalate_cons_of_ne_nil more,
          List.intercalate_singleton, List.append_assoc, List.singleton_append]
      · rw [List.cons_append, List.intercalate_cons_of_ne_nil (by simp [single]),
          induction single, List.intercalate_cons_of_ne_nil single, List.append_assoc,
          List.append_assoc, List.append_assoc]

theorem exists_intercalate_concat (others : List Bytes) (part : Bytes) :
    ∃ before, [slash].intercalate (others ++ [part]) = before ++ part := by
  by_cases single : others = []
  · rw [single, List.nil_append, List.intercalate_singleton]
    exact ⟨[], rfl⟩
  · rw [intercalate_append single (List.cons_ne_nil part []), List.intercalate_singleton]
    exact ⟨[slash].intercalate others ++ [slash], by simp⟩

theorem intercalate_partsBack (path : Bytes) :
    path = lead path ++ [slash].intercalate (partsBack path).reverse := by
  rw [partsBack, List.reverse_reverse, List.intercalate_splitOn, lead_append_drop]

private theorem atSlash_of_splitOn {rest : Bytes} {others : List Bytes}
    (split : rest.splitOn slash = [] :: others) : AtSlash rest := by
  have joined : [slash].intercalate (rest.splitOn slash) = rest :=
    List.intercalate_splitOn slash
  rw [split] at joined
  rw [← joined]
  cases others with
  | nil => exact .inl rfl
  | cons next others => exact .inr ⟨_, rfl⟩

/-- The components are those of the start, and the parts after it that are not idle. -/
theorem components_eq (path : Bytes) :
    components path = leadComponents (lead path) ++
      (partsBack path).reverse.filterMap Component.ofPart? := by
  rw [components, partsBack, List.reverse_reverse]
  rcases lead_cases path with ⟨starts, rest, rfl⟩ | ⟨starts, rest, rfl, rfl | ⟨others, rfl⟩⟩ |
    ⟨starts, rfl⟩ | ⟨starts, first, rest, rfl, notRoot, notHere⟩
  · rcases List.exists_cons_of_ne_nil (List.splitOn_ne_nil slash rest) with ⟨head, tail, split⟩
    rw [starts, List.splitOn_cons_eq_if_modifyHead, if_pos (beq_self_eq_true slash)]
    change _ = _ ++ List.filterMap _ (rest.splitOn slash)
    rw [split]
    rfl
  · rfl
  · have split := List.splitOn_append_cons_self_of_not_mem
      (show slash ∉ [dot] by decide) others
    rw [List.singleton_append] at split
    rw [starts, split]
    rfl
  · rfl
  · rcases List.exists_cons_of_ne_nil (List.splitOn_ne_nil slash rest) with ⟨head, tail, split⟩
    have noOrigin : origin ((first :: head) :: tail) = [] := by
      unfold origin
      split
      next same => cases same
      next same =>
        cases same
        exact absurd (atSlash_of_splitOn split) (notHere rfl)
      next => rfl
    have pieces : (first :: rest).splitOn slash = (first :: head) :: tail := by
      rw [List.splitOn_cons_eq_if_modifyHead, if_neg (by simpa using notRoot), split]
      rfl
    rw [starts, pieces, noOrigin, List.length_nil, List.drop_zero, pieces]
    rfl

end MemoryProbe.LogPath
