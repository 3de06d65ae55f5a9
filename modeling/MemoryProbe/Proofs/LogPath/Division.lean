import MemoryProbe.Proofs.LogPath.Components
import Mathlib.Data.List.DropRight

namespace MemoryProbe.LogPath

/-! ## The directory of a path -/

/-- What a path says up to its last part that counts begins and goes on like the path. -/
def upTo (path : Bytes) (back : List Bytes) : Bytes :=
  lead path ++ [slash].intercalate (back.dropWhile isIdle).reverse

private theorem directoryOf_eq (path : Bytes) (back : List Bytes) :
    directoryOf path back = if upTo path back = [] then [dot] else upTo path back := by
  unfold directoryOf upTo
  split
  next empty => rw [if_pos empty]
  next nonempty => exact (if_neg nonempty).symm

section
variable {path : Bytes} {front back : List Bytes} (cut : partsBack path = front ++ back)
include cut

private theorem exists_after :
    ∃ after, path = upTo path back ++ after ∧ (upTo path back = [dot] → AtSlash after) := by
  have whole := intercalate_partsBack path
  have pieces : (partsBack path).reverse = (back.dropWhile isIdle).reverse ++
      (front ++ back.takeWhile isIdle).reverse := by
    rw [← List.reverse_append, List.append_assoc, List.takeWhile_append_dropWhile, cut]
  rw [pieces] at whole
  unfold upTo
  generalize (back.dropWhile isIdle).reverse = kept at whole ⊢
  generalize (front ++ back.takeWhile isIdle).reverse = left at whole
  by_cases none : kept = []
  · subst none
    rw [List.nil_append] at whole
    refine ⟨[slash].intercalate left, by simpa using whole, fun here => ?_⟩
    rw [List.intercalate_nil, List.append_nil] at here
    rcases lead_cases path with ⟨starts, -⟩ | ⟨starts, rest, split, apart⟩ | ⟨starts, -⟩ |
      ⟨starts, -⟩
    · rw [starts] at here
      exact absurd here (by decide)
    · rw [starts, split, List.singleton_append] at whole
      rwa [← (List.cons.inj whole).2]
    all_goals rw [starts] at here; exact absurd here (by decide)
  · by_cases all : left = []
    · subst all
      rw [List.append_nil] at whole
      exact ⟨[], by simpa using whole, fun _ => .inl rfl⟩
    · rw [intercalate_append none all, ← List.append_assoc] at whole
      exact ⟨_, whole, fun _ => .inr ⟨_, rfl⟩⟩

private theorem lead_upTo : lead (upTo path back) = lead path := by
  rcases exists_after cut with ⟨after, split, apart⟩
  by_cases nothing : upTo path back = []
  · have starts : lead path = [] := (List.append_eq_nil_iff.mp nothing).1
    rw [nothing, starts]
    rfl
  · have starts := lead_append nothing apart
    rw [← split] at starts
    exact starts.symm

private theorem dropWhile_partsBack_upTo :
    (partsBack (upTo path back)).dropWhile isIdle = back.dropWhile isIdle := by
  have rest : (upTo path back).drop (lead (upTo path back)).length =
      [slash].intercalate (back.dropWhile isIdle).reverse := by
    rw [lead_upTo cut, upTo, List.drop_left]
  rw [partsBack, rest]
  by_cases none : back.dropWhile isIdle = []
  · rw [none]
    rfl
  · rw [List.splitOn_intercalate slash _ (by simpa using none), List.reverse_reverse,
      List.dropWhile_idempotent]
    intro part member
    have found := (List.dropWhile_sublist isIdle).mem (List.mem_reverse.mp member)
    exact slash_not_mem_of_mem_partsBack (cut ▸ List.mem_append_right front found)

private theorem upTo_upTo :
    upTo (upTo path back) (partsBack (upTo path back)) = upTo path back := by
  rw [upTo, lead_upTo cut, dropWhile_partsBack_upTo cut]
  rfl

private theorem components_upTo :
    components (upTo path back) =
      leadComponents (lead path) ++ back.reverse.filterMap Component.ofPart? := by
  rw [components_eq, lead_upTo cut, ← filterMap_reverse_dropWhile, dropWhile_partsBack_upTo cut,
    filterMap_reverse_dropWhile]

end

/-! ## Splitting and joining -/

/-- A directory and a name are put together with a slash between them, unless the
directory ends with one. -/
def joined (path : LogPath) : Bytes :=
  if path.directory.getLast? = some slash then path.directory ++ Bytes.ofString path.fileName
  else path.directory ++ slash :: Bytes.ofString path.fileName

/-- Nothing but the root ends with a slash among what paths say up to a part. -/
theorem eq_root_of_trimmed {directory : Bytes}
    (trimmed : upTo directory (partsBack directory) = directory)
    (ends : directory.getLast? = some slash) : directory = [slash] := by
  unfold upTo at trimmed
  cases kept : (partsBack directory).dropWhile isIdle with
  | nil =>
      rw [kept, List.reverse_nil, List.intercalate_nil, List.append_nil] at trimmed
      rw [← trimmed] at ends ⊢
      rcases lead_cases directory with ⟨starts, -⟩ | ⟨starts, -⟩ | ⟨starts, -⟩ | ⟨starts, -⟩
      · exact starts
      all_goals rw [starts] at ends; exact absurd ends (by decide)
  | cons part others =>
      have counts : isIdle part = false := by
        simpa [kept] using List.head?_dropWhile_not isIdle (partsBack directory)
      have member : part ∈ partsBack directory :=
        (List.dropWhile_sublist isIdle).mem (kept ▸ List.mem_cons_self)
      have nonempty : part ≠ [] := by
        rintro rfl
        cases counts
      have last : directory.getLast? = part.getLast? := by
        rcases exists_intercalate_concat others.reverse part with ⟨before, joined⟩
        rw [kept, List.reverse_cons, joined, ← List.append_assoc] at trimmed
        rw [← trimmed, List.getLast?_append_of_ne_nil _ nonempty]
      rw [last] at ends
      exact absurd (List.mem_of_getLast? ends) (slash_not_mem_of_mem_partsBack member)

private theorem ofPath?_of_partsBack {path : Bytes} {name : String} {back : List Bytes}
    (parts : partsBack path = Bytes.ofString name :: back)
    (named : isIdle (Bytes.ofString name) = false) (notParent : Bytes.ofString name ≠ parent) :
    ofPath? path = some ⟨directoryOf path back, name⟩ := by
  rw [ofPath?, parts, List.dropWhile_cons_of_neg (by simp [named])]
  simp only [if_neg notParent, Bytes.toString?_ofString, Option.map_some]

theorem ofPath?_joined {directory : Bytes} {name : String}
    (trimmed : upTo directory (partsBack directory) = directory) (nonempty : directory ≠ [])
    (named : isIdle (Bytes.ofString name) = false) (notParent : Bytes.ofString name ≠ parent)
    (free : slash ∉ Bytes.ofString name) :
    ofPath? (joined ⟨directory, name⟩) = some ⟨directory, name⟩ := by
  unfold joined
  by_cases ends : directory.getLast? = some slash
  · rw [if_pos ends, eq_root_of_trimmed trimmed ends, List.singleton_append]
    have parts : partsBack (slash :: Bytes.ofString name) = [Bytes.ofString name] := by
      change ((Bytes.ofString name).splitOn slash).reverse = _
      rw [List.splitOn_eq_singleton free]
      rfl
    exact ofPath?_of_partsBack parts named notParent
  · rw [if_neg ends]
    have starts : lead (directory ++ slash :: Bytes.ofString name) = lead directory :=
      lead_append nonempty fun _ => .inr ⟨_, rfl⟩
    have parts : partsBack (directory ++ slash :: Bytes.ofString name) =
        Bytes.ofString name :: partsBack directory := by
      have rest : (directory ++ slash :: Bytes.ofString name).drop (lead directory).length =
          directory.drop (lead directory).length ++ slash :: Bytes.ofString name :=
        List.drop_append_of_le_length
          (List.IsPrefix.length_le ⟨_, lead_append_drop directory⟩)
      rw [partsBack, starts, rest, List.splitOn_append_cons_self,
        List.splitOn_eq_singleton free, List.reverse_append]
      rfl
    have same : upTo (directory ++ slash :: Bytes.ofString name) (partsBack directory) =
        directory := by
      rw [upTo, starts]
      exact trimmed
    rw [ofPath?_of_partsBack parts named notParent, directoryOf_eq, same, if_neg nonempty]

/-! ## What a split keeps -/

private theorem getLast?_leadComponents (path : Bytes) (bytes : Bytes) :
    (leadComponents (lead path)).getLast? ≠ some (.name bytes) := by
  rcases lead_cases path with ⟨starts, -⟩ | ⟨starts, -⟩ | ⟨starts, -⟩ | ⟨starts, -⟩
  all_goals rw [starts]; simp [leadComponents, slash, dot]

private theorem leadComponents_eq_nil_iff (path : Bytes) :
    leadComponents (lead path) = [] ↔ lead path = [] := by
  rcases lead_cases path with ⟨starts, -⟩ | ⟨starts, -⟩ | ⟨starts, -⟩ | ⟨starts, -⟩
  all_goals rw [starts]; simp [leadComponents, slash, dot]

/-- The last component is the last part that is not idle. -/
theorem components_of_dropWhile {path part : Bytes} {back : List Bytes} {component : Component}
    (kept : (partsBack path).dropWhile isIdle = part :: back)
    (counts : Component.ofPart? part = some component) :
    components path = leadComponents (lead path) ++
      back.reverse.filterMap Component.ofPart? ++ [component] := by
  rw [components_eq, ← filterMap_reverse_dropWhile, kept, List.reverse_cons,
    List.filterMap_append, List.append_assoc]
  simp [counts]

theorem hasFileName_iff (path : Bytes) (name : String) :
    HasFileName path name ↔
      (components path).getLast? = some (.name (Bytes.ofString name)) := by
  unfold HasFileName
  rw [getLast?_parts]
  cases kept : (partsBack path).dropWhile isIdle with
  | nil =>
      have bare : components path = leadComponents (lead path) := by
        rw [components_eq, ← filterMap_reverse_dropWhile, kept]
        exact List.append_nil _
      simp [bare, getLast?_leadComponents]
  | cons part back =>
      have busy : isIdle part = false := by
        simpa [kept] using List.head?_dropWhile_not isIdle (partsBack path)
      have counts : Component.ofPart? part ≠ none := by
        rw [Ne, ofPart?_eq_none_iff, busy]
        exact Bool.false_ne_true
      rcases Option.ne_none_iff_exists'.mp counts with ⟨component, counts⟩
      have named := ofPart?_eq_name_iff part (Bytes.ofString name)
      rw [components_of_dropWhile kept counts, List.getLast?_concat, ← counts, named]
      simp [busy, Bytes.toString?_eq_some_iff]

/-- Where a path is cut: at its last part that is not idle. -/
structure Cut (path : Bytes) (found : LogPath) (back : List Bytes) : Prop where
  kept : (partsBack path).dropWhile isIdle = Bytes.ofString found.fileName :: back
  notParent : Bytes.ofString found.fileName ≠ parent
  directory : found.directory = directoryOf path back

theorem exists_cut {path : Bytes} {found : LogPath} (accepted : split path = .ok found) :
    ∃ back, Cut path found back := by
  unfold split at accepted
  cases result : ofPath? path with
  | none => simp [result] at accepted
  | some other =>
      rw [result] at accepted
      cases accepted
      unfold ofPath? at result
      cases kept : (partsBack path).dropWhile isIdle with
      | nil => simp [kept] at result
      | cons part back =>
          simp only [kept] at result
          by_cases upwards : part = parent
          · simp [upwards] at result
          · rw [if_neg upwards, Option.map_eq_some_iff] at result
            rcases result with ⟨name, decoded, rfl⟩
            rw [Bytes.toString?_eq_some_iff] at decoded
            subst decoded
            exact ⟨back, kept, upwards, rfl⟩

namespace Cut

variable {path : Bytes} {found : LogPath} {back : List Bytes} (cut : Cut path found back)

include cut

private theorem busy : isIdle (Bytes.ofString found.fileName) = false := by
  simpa [cut.kept] using List.head?_dropWhile_not isIdle (partsBack path)

private theorem exists_front :
    ∃ front, partsBack path = front ++ [Bytes.ofString found.fileName] ++ back := by
  refine ⟨(partsBack path).takeWhile isIdle, ?_⟩
  rw [List.append_assoc, List.singleton_append, ← cut.kept, List.takeWhile_append_dropWhile]

private theorem free : slash ∉ Bytes.ofString found.fileName := by
  rcases cut.exists_front with ⟨front, parts⟩
  have member : Bytes.ofString found.fileName ∈ partsBack path := by simp [parts]
  exact slash_not_mem_of_mem_partsBack member

theorem components_eq_concat : components path =
    leadComponents (lead path) ++ back.reverse.filterMap Component.ofPart? ++
      [.name (Bytes.ofString found.fileName)] := by
  apply components_of_dropWhile cut.kept
  rw [ofPart?_eq_name_iff]
  exact ⟨cut.busy, cut.notParent, rfl⟩

/-- A path says nothing up to its only component. -/
theorem upTo_eq_nil_iff : upTo path back = [] ↔ (components path).length = 1 := by
  have single : (components path).length = 1 ↔
      lead path = [] ∧ back.reverse.filterMap Component.ofPart? = [] := by
    rw [cut.components_eq_concat, ← leadComponents_eq_nil_iff]
    simp only [List.length_append, List.length_singleton, ← List.length_eq_zero_iff]
    omega
  rw [single, ← filterMap_reverse_dropWhile, upTo, List.append_eq_nil_iff]
  refine and_congr_right fun _ => ?_
  cases kept : back.dropWhile isIdle with
  | nil => simp
  | cons part others =>
      have busy : isIdle part = false := by
        simpa [kept] using List.head?_dropWhile_not isIdle back
      have counts : Component.ofPart? part ≠ none := by
        rw [Ne, ofPart?_eq_none_iff, busy]
        exact Bool.false_ne_true
      rcases exists_intercalate_concat others.reverse part with ⟨before, joined⟩
      rw [List.reverse_cons, joined]
      constructor
      · intro empty
        rw [(List.append_eq_nil_iff.mp empty).2] at busy
        cases busy
      · intro none
        exact absurd (List.filterMap_eq_nil_iff.mp none part (by simp)) counts

theorem directory_eq : found.directory = if upTo path back = [] then [dot] else upTo path back := by
  rw [cut.directory, directoryOf_eq]

private theorem directory_ne_nil : found.directory ≠ [] := by
  rw [cut.directory_eq]
  split
  · exact List.cons_ne_nil dot []
  · assumption

private theorem upTo_directory :
    upTo found.directory (partsBack found.directory) = found.directory := by
  rcases cut.exists_front with ⟨front, parts⟩
  rw [cut.directory_eq]
  split
  · rfl
  · exact upTo_upTo parts

private theorem components_directory (several : (components path).length ≠ 1) :
    components found.directory ++ [.name (Bytes.ofString found.fileName)] = components path := by
  rcases cut.exists_front with ⟨front, parts⟩
  rw [Ne, ← cut.upTo_eq_nil_iff] at several
  rw [cut.directory_eq, if_neg several, components_upTo parts, cut.components_eq_concat]

private theorem head?_directory (absolute : path.head? = some slash) :
    found.directory.head? = some slash := by
  have starts : lead path = [slash] := by
    rcases lead_cases path with ⟨starts, -⟩ | ⟨-, rest, rfl, -⟩ | ⟨-, rfl⟩ |
      ⟨-, first, rest, rfl, notRoot, -⟩
    · exact starts
    · exact absurd absolute (by simp [slash, dot])
    · cases absolute
    · exact absurd (Option.some.inj absolute) notRoot
  have begins : upTo path back =
      slash :: [slash].intercalate (back.dropWhile isIdle).reverse := by
    rw [upTo, starts, List.singleton_append]
  rw [cut.directory_eq, begins, if_neg (List.cons_ne_nil _ _), List.head?_cons]

end Cut

/-- What a path is split into: its last component, which is text, and a directory with those
before it, or the current one. -/
structure Divides (path : Bytes) (found : LogPath) : Prop where
  last : (components path).getLast? = some (.name (Bytes.ofString found.fileName))
  named : found.fileName ≠ ""
  free : slash ∉ Bytes.ofString found.fileName
  somewhere : found.directory ≠ []
  single : (components path).length = 1 → found.directory = [dot]
  whole : (components path).length ≠ 1 →
    components found.directory ++ [.name (Bytes.ofString found.fileName)] = components path
  absolute : path.head? = some slash → found.directory.head? = some slash
  again : split found.joined = .ok found

theorem Cut.divides {path : Bytes} {found : LogPath} {back : List Bytes}
    (cut : Cut path found back) : Divides path found where
  last := by
    rw [cut.components_eq_concat, List.getLast?_concat]
  named := by
    intro empty
    have busy := cut.busy
    rw [empty] at busy
    cases busy
  free := cut.free
  somewhere := cut.directory_ne_nil
  single := by
    intro single
    rw [cut.directory_eq, if_pos (cut.upTo_eq_nil_iff.mpr single)]
  whole := cut.components_directory
  absolute := cut.head?_directory
  again := by
    have joined := ofPath?_joined cut.upTo_directory cut.directory_ne_nil cut.busy cut.notParent
      cut.free
    rw [split, joined]

theorem exists_split_iff (path : Bytes) :
    (∃ found, split path = .ok found) ↔ ∃ name, HasFileName path name := by
  have refused := split_eq_refusal_iff path
  unfold split at refused ⊢
  cases result : ofPath? path with
  | none => simpa [result] using refused
  | some found => simpa [result] using refused

/-- A path is split exactly when its last component is a name, and text. The directory and
the name that it is split into have the components of the path, in order, and are what their
join is split into again. -/
theorem split_loses_nothing (path : Bytes) :
    ((∃ found, split path = .ok found) ↔
      ∃ name : String, (components path).getLast? = some (.name (Bytes.ofString name))) ∧
    ∀ found, split path = .ok found → Divides path found := by
  constructor
  · simp only [exists_split_iff, hasFileName_iff]
  · intro found accepted
    rcases exists_cut accepted with ⟨back, cut⟩
    exact cut.divides

/-- Idle parts after the name, before it and at the start. -/
theorem split_loses_nothing_idle_parts :
    split (Bytes.ofString "./logs//day.log/.") = .ok ⟨Bytes.ofString "./logs", "day.log"⟩ ∧
      Divides (Bytes.ofString "./logs//day.log/.") ⟨Bytes.ofString "./logs", "day.log"⟩ := by
  have found : ofPath? (Bytes.ofString "./logs//day.log/.") =
      some ⟨Bytes.ofString "./logs", "day.log"⟩ := by decide +kernel
  have accepted : split (Bytes.ofString "./logs//day.log/.") =
      .ok ⟨Bytes.ofString "./logs", "day.log"⟩ := by rw [split, found]
  exact ⟨accepted, (split_loses_nothing _).2 _ accepted⟩

end MemoryProbe.LogPath
