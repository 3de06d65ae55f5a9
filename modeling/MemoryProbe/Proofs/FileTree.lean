import MemoryProbe.FileTree
import Mathlib.Data.List.Induction
import Mathlib.Data.List.Nodup

namespace MemoryProbe

@[simp] theorem FileNode.written_nil (node : FileNode) : node.written [] = node := by
  cases node with
  | file lines => exact congrArg FileNode.file (List.append_nil lines)
  | folder takesFiles => rfl

private theorem FileNode.written_written (first second : List String) (node : FileNode) :
    (node.written first).written second = node.written (first ++ second) := by
  cases node with
  | file lines => exact congrArg FileNode.file (List.append_assoc lines first second)
  | folder takesFiles => rfl

theorem FileEntry.path_eq_iff {entry : FileEntry} {folder : List Bytes} {name : Bytes} :
    entry.path = folder ++ [name] ↔ entry.folder = folder ∧ entry.name = name :=
  List.append_singleton_inj

theorem FileEntry.written_of_ne {file : List Bytes} {entry : FileEntry}
    (different : entry.path ≠ file) (lines : List String) : entry.written file lines = entry := by
  rw [written, if_neg different]

@[simp] theorem FileEntry.written_nil (file : List Bytes) (entry : FileEntry) :
    entry.written file [] = entry := by
  rw [written, FileNode.written_nil, ite_self]

private theorem FileEntry.written_written (file : List Bytes) (first second : List String)
    (entry : FileEntry) :
    (entry.written file first).written file second = entry.written file (first ++ second) := by
  by_cases same : entry.path = file
  · have again : (entry.written file first).path = file := same
    rw [written, if_pos again, written, if_pos same, FileNode.written_written, written,
      if_pos same]
  · rw [written_of_ne same, written_of_ne same, written_of_ne same]

namespace FileTree

variable {tree made : FileTree} {here folder file : List Bytes}

/-! ## Entries by their paths -/

theorem eq_of_path_eq {entry other : FileEntry} (member : entry ∈ tree.entries)
    (otherMember : other ∈ tree.entries) (same : entry.path = other.path) : entry = other :=
  List.inj_on_of_nodup_map tree.distinct member otherMember same

theorem hasFolder_iff :
    tree.hasFolder folder = true ↔
      folder = [] ∨ ∃ entry ∈ tree.entries, entry.path = folder ∧ entry.node.isFolder = true :=
  holdsFolder_iff

theorem node?_eq_some_iff {node : FileNode} (below : file ≠ []) :
    tree.node? file = some node ↔
      ∃ entry ∈ tree.entries, entry.path = file ∧ entry.node = node := by
  rw [node?, if_neg below, Option.map_eq_some_iff]
  constructor
  · rintro ⟨entry, found, rfl⟩
    have same : entry.path = file := by simpa using List.find?_some found
    exact ⟨entry, List.mem_of_find?_eq_some found, same, rfl⟩
  · rintro ⟨entry, member, rfl, rfl⟩
    cases found : tree.entries.find? fun other => other.path = entry.path with
    | none =>
        have absent := List.find?_eq_none.mp found entry member
        simp at absent
    | some other =>
        have same : other.path = entry.path := by simpa using List.find?_some found
        exact ⟨other, rfl, by rw [eq_of_path_eq (List.mem_of_find?_eq_some found) member same]⟩

theorem takesFiles_iff :
    tree.takesFiles folder = true ↔
      folder = [] ∨ ∃ entry ∈ tree.entries, entry.path = folder ∧ entry.node = .folder true := by
  rw [takesFiles, decide_eq_true_eq]
  by_cases root : folder = []
  · simp [node?, root]
  · rw [node?_eq_some_iff root, or_iff_right root]

/-- What stands in a folder that is there also stands in every folder above it. -/
theorem hasFolder_of_prefix {deeper : List Bytes} (there : tree.hasFolder deeper = true)
    (above : folder <+: deeper) : tree.hasFolder folder = true := by
  induction deeper using List.reverseRecOn with
  | nil =>
      rw [List.prefix_nil.mp above]
      exact hasFolder_iff.mpr (.inl rfl)
  | append_singleton front last induction =>
      rcases List.prefix_concat_iff.mp above with rfl | above
      · exact there
      · refine induction ?_ above
        rcases hasFolder_iff.mp there with empty | ⟨entry, member, same, -⟩
        · simp at empty
        · rw [hasFolder, ← (FileEntry.path_eq_iff.mp same).1]
          exact (tree.standing entry member).2

/-! ## Where a path leads -/

/-- A way may break off, but it cannot end anywhere else. -/
def next (folder : List Bytes) (part : Bytes) : List Bytes :=
  if part = LogPath.parent then folder.dropLast else folder ++ [part]

def walk (folder : List Bytes) (parts : List Bytes) : List Bytes :=
  parts.foldl next folder

def leadsTo (here : List Bytes) (path : Bytes) : List Bytes :=
  walk (start here path) (LogPath.parts path)

theorem walk_cons (folder : List Bytes) (part : Bytes) (rest : List Bytes) :
    walk folder (part :: rest) = walk (next folder part) rest :=
  List.foldl_cons

theorem walk_forward {parts : List Bytes} (forward : LogPath.parent ∉ parts)
    (folder : List Bytes) : walk folder parts = folder ++ parts := by
  induction parts generalizing folder with
  | nil => exact (List.append_nil folder).symm
  | cons part rest induction =>
      rw [List.mem_cons, not_or] at forward
      rw [walk_cons, next, if_neg (Ne.symm forward.1), induction forward.2, List.append_assoc,
        List.singleton_append]

theorem eq_next_of_enter {part : Bytes} {entered : List Bytes}
    (success : tree.enter folder part = some entered) : entered = next folder part := by
  unfold enter at success
  unfold next
  split
  case isTrue upwards =>
    rw [if_pos upwards, Option.some_inj] at success
    exact success.symm
  case isFalse onwards =>
    rw [if_neg onwards, Option.ite_none_right_eq_some, Option.some_inj] at success
    exact success.2.symm

theorem eq_walk_of_foldlM {parts : List Bytes} {last : List Bytes}
    (walked : parts.foldlM tree.enter folder = some last) : last = walk folder parts := by
  induction parts generalizing folder with
  | nil => exact (Option.some.inj walked).symm
  | cons part rest induction =>
      rw [List.foldlM_cons, Option.bind_eq_bind, Option.bind_eq_some_iff] at walked
      rcases walked with ⟨entered, success, walked⟩
      rw [walk_cons, ← eq_next_of_enter success]
      exact induction walked

theorem eq_leadsTo_of_folder? {path : Bytes} {last : List Bytes}
    (found : tree.folder? here path = some last) : last = leadsTo here path := by
  rw [folder?, Option.ite_none_right_eq_some] at found
  exact eq_walk_of_foldlM found.2

private theorem hasFolder_of_enter {part : Bytes} {entered : List Bytes}
    (there : tree.hasFolder folder = true) (success : tree.enter folder part = some entered) :
    tree.hasFolder entered = true := by
  unfold enter at success
  split at success
  · rw [← Option.some.inj success]
    exact hasFolder_of_prefix there (List.dropLast_prefix folder)
  · rw [Option.ite_none_right_eq_some, Option.some_inj] at success
    exact success.2 ▸ success.1

/-- Folders that are entered one after another are all there. -/
theorem hasFolder_of_foldlM {parts : List Bytes} {last : List Bytes}
    (there : tree.hasFolder folder = true)
    (walked : parts.foldlM tree.enter folder = some last) : tree.hasFolder last = true := by
  induction parts generalizing folder with
  | nil => exact Option.some.inj walked ▸ there
  | cons part rest induction =>
      rw [List.foldlM_cons, Option.bind_eq_bind, Option.bind_eq_some_iff] at walked
      rcases walked with ⟨entered, success, walked⟩
      exact induction (hasFolder_of_enter there success) walked

private theorem hasFolder_start (isHere : tree.hasFolder here = true) (path : Bytes) :
    tree.hasFolder (start here path) = true := by
  unfold start
  split
  · exact hasFolder_iff.mpr (.inl rfl)
  · exact isHere

theorem hasFolder_of_folder? {path : Bytes} {last : List Bytes}
    (isHere : tree.hasFolder here = true) (found : tree.folder? here path = some last) :
    tree.hasFolder last = true := by
  rw [folder?, Option.ite_none_right_eq_some] at found
  exact hasFolder_of_foldlM (hasFolder_start isHere path) found.2

/-- Every folder on a way that can be gone is there. -/
theorem hasFolder_of_front {path : Bytes} {last front : List Bytes}
    (isHere : tree.hasFolder here = true) (found : tree.folder? here path = some last)
    (begins : front <+: LogPath.parts path) :
    tree.hasFolder (walk (start here path) front) = true := by
  rcases begins with ⟨rest, split⟩
  rw [folder?, Option.ite_none_right_eq_some, ← split, List.foldlM_append,
    Option.bind_eq_bind, Option.bind_eq_some_iff] at found
  rcases found with ⟨-, entered, walked, -⟩
  rw [← eq_walk_of_foldlM walked]
  exact hasFolder_of_foldlM (hasFolder_start isHere path) walked

/-- A way that never turns back can be gone where the folder at its end is there. -/
theorem foldlM_enter_of_hasFolder {parts : List Bytes} (forward : LogPath.parent ∉ parts)
    (there : tree.hasFolder (folder ++ parts) = true) :
    parts.foldlM tree.enter folder = some (folder ++ parts) := by
  induction parts generalizing folder with
  | nil => exact congrArg some (List.append_nil folder).symm
  | cons part rest induction =>
      rw [List.mem_cons, not_or] at forward
      have split : folder ++ part :: rest = folder ++ [part] ++ rest := by
        rw [List.append_assoc, List.singleton_append]
      have first : tree.enter folder part = some (folder ++ [part]) := by
        rw [enter, if_neg (Ne.symm forward.1), if_pos]
        exact hasFolder_of_prefix there (split ▸ List.prefix_append _ _)
      rw [split] at there ⊢
      rw [List.foldlM_cons, first]
      exact induction forward.2 there

/-! ## What changes do to the entries -/

theorem make_eq_some {name : Bytes} {node : FileNode}
    (success : tree.make folder name node = some made) :
    isName name = true ∧ tree.takesFiles folder = true ∧ folder ++ [name] ∉ tree.paths ∧
      made.entries = tree.entries ++ [⟨folder, name, node⟩] := by
  rw [make, Option.dite_none_right_eq_some] at success
  rcases success with ⟨fits, made⟩
  rw [← Option.some.inj made]
  exact ⟨fits.1, fits.2.1, fits.2.2, rfl⟩

/-- A folder on the way is new where it was missing. -/
def OnTheWay (folder : List Bytes) (parts : List Bytes) (entry : FileEntry) : Prop :=
  entry.node = .folder true ∧ ∃ front, front <+: parts ∧ entry.path = walk folder front

theorem makeFolder_eq_some {part : Bytes} {entered : List Bytes}
    (success : tree.makeFolder folder part = some (made, entered)) :
    entered = next folder part ∧
      ∃ added, made.entries = tree.entries ++ added ∧
        ∀ entry ∈ added, OnTheWay folder [part] entry := by
  unfold makeFolder at success
  cases entering : tree.enter folder part with
  | some there =>
      rw [entering, Option.some_inj, Prod.mk.injEq] at success
      rcases success with ⟨rfl, rfl⟩
      exact ⟨eq_next_of_enter entering, [], (List.append_nil _).symm, by simp⟩
  | none =>
      have onwards : part ≠ LogPath.parent := by
        rintro rfl
        simp [enter] at entering
      rw [entering, Option.map_eq_some_iff] at success
      rcases success with ⟨grown, success, same⟩
      rw [Prod.mk.injEq] at same
      rcases same with ⟨rfl, rfl⟩
      have ahead : next folder part = folder ++ [part] := if_neg onwards
      refine ⟨ahead.symm, _, (make_eq_some success).2.2.2, fun entry member => ?_⟩
      rw [List.mem_singleton.mp member]
      exact ⟨rfl, [part], List.prefix_refl _, ahead.symm⟩

private theorem OnTheWay.cons {part : Bytes} {rest : List Bytes} {entry : FileEntry}
    (onTheWay : OnTheWay (next folder part) rest entry) :
    OnTheWay folder (part :: rest) entry := by
  rcases onTheWay with ⟨isFolder, front, begins, same⟩
  exact ⟨isFolder, part :: front, List.cons_prefix_cons.mpr ⟨rfl, begins⟩, same⟩

private theorem OnTheWay.of_singleton {part : Bytes} {entry : FileEntry}
    (onTheWay : OnTheWay folder [part] entry) (rest : List Bytes) :
    OnTheWay folder (part :: rest) entry := by
  rcases onTheWay with ⟨isFolder, front, begins, same⟩
  exact ⟨isFolder, front, begins.trans (List.prefix_append [part] rest), same⟩

/-- Making folders adds those on the way and nothing else, whether or not it breaks off. -/
theorem makeFolders_entries (tree : FileTree) (folder parts : List Bytes) :
    ∃ added, (tree.makeFolders folder parts).1.entries = tree.entries ++ added ∧
      ∀ entry ∈ added, OnTheWay folder parts entry := by
  induction parts generalizing tree folder with
  | nil => exact ⟨[], (List.append_nil _).symm, by simp⟩
  | cons part rest induction =>
      unfold makeFolders
      cases success : tree.makeFolder folder part with
      | none => exact ⟨[], (List.append_nil _).symm, by simp⟩
      | some grown =>
          rcases makeFolder_eq_some success with ⟨ahead, first, grows, firstOnTheWay⟩
          rcases induction grown.1 grown.2 with ⟨later, ends, laterOnTheWay⟩
          refine ⟨first ++ later, by rw [ends, grows, List.append_assoc], fun entry member => ?_⟩
          rcases List.mem_append.mp member with early | late
          · exact (firstOnTheWay entry early).of_singleton rest
          · exact OnTheWay.cons (ahead ▸ laterOnTheWay entry late)

theorem eq_walk_of_makeFolders {parts : List Bytes} {last : List Bytes}
    (success : (tree.makeFolders folder parts).2 = some last) : last = walk folder parts := by
  induction parts generalizing tree folder with
  | nil => exact (Option.some.inj success).symm
  | cons part rest induction =>
      unfold makeFolders at success
      cases first : tree.makeFolder folder part with
      | none => simp [first] at success
      | some grown =>
          rw [first] at success
          rw [walk_cons, ← (makeFolder_eq_some first).1]
          exact induction success

/-- A file that is opened was there or is new, in a folder that takes files. -/
theorem openFile_eq_some {name : Bytes} {opened : FileTree}
    (success : tree.openFile folder name = some opened) :
    tree.takesFiles folder = true ∧
      (opened = tree ∧ (∃ entry ∈ tree.entries, entry.path = folder ++ [name] ∧
          entry.node.isFolder = false) ∨
        folder ++ [name] ∉ tree.paths ∧
          opened.entries = tree.entries ++ [⟨folder, name, .file []⟩]) := by
  have below : folder ++ [name] ≠ [] := List.concat_ne_nil name folder
  unfold openFile at success
  cases found : tree.node? (folder ++ [name]) with
  | none =>
      simp only [found] at success
      rcases make_eq_some success with ⟨-, takes, free, grown⟩
      exact ⟨takes, .inr ⟨free, grown⟩⟩
  | some node =>
      cases node with
      | folder takesFiles => simp [found] at success
      | file lines =>
          simp only [found, Option.ite_none_right_eq_some, Option.some_inj] at success
          rcases (node?_eq_some_iff below).mp found with ⟨entry, member, same, node⟩
          exact ⟨success.1, .inl ⟨success.2.symm, entry, member, same, by rw [node]; rfl⟩⟩

theorem mem_removeFiles (gone : List (List Bytes)) {entry : FileEntry} :
    entry ∈ (tree.removeFiles gone).entries ↔
      entry ∈ tree.entries ∧ (entry.node.isFolder = true ∨ entry.path ∉ gone) := by
  simp [removeFiles, List.mem_filter]

/-! ## What is written -/

def Holds (tree : FileTree) (file : List Bytes) (lines : List String) : Prop :=
  ∃ entry ∈ tree.entries, entry.path = file ∧ entry.node = .file lines

theorem Holds.append {earlier : List String} (holds : tree.Holds file earlier)
    (lines : List String) : (tree.append file lines).Holds file (earlier ++ lines) := by
  rcases holds with ⟨entry, member, same, node⟩
  refine ⟨entry.written file lines, List.mem_map_of_mem member, same, ?_⟩
  rw [FileEntry.written, if_pos same, node, FileNode.written]

theorem mem_append_of_ne {entry : FileEntry} (member : entry ∈ tree.entries)
    (different : entry.path ≠ file) (lines : List String) :
    entry ∈ (tree.append file lines).entries := by
  exact List.mem_map.mpr ⟨entry, member, FileEntry.written_of_ne different lines⟩

theorem mem_or_written_of_mem_append {lines : List String} {entry : FileEntry}
    (member : entry ∈ (tree.append file lines).entries) :
    entry ∈ tree.entries ∨ entry.path = file := by
  rcases List.mem_map.mp member with ⟨old, inside, rfl⟩
  by_cases same : old.path = file
  · exact .inr same
  · rw [FileEntry.written_of_ne same]
    exact .inl inside

@[simp] theorem paths_append (file : List Bytes) (lines : List String) :
    (tree.append file lines).paths = tree.paths := by
  rw [paths, append, List.map_map, paths]
  rfl

@[simp] theorem filesIn_append (file : List Bytes) (lines : List String) :
    (tree.append file lines).filesIn folder = tree.filesIn folder := by
  rw [filesIn, append, List.filter_map, List.map_map, filesIn]
  have alike : (fun entry : FileEntry => entry.folder = folder && !entry.node.isFolder) ∘
      FileEntry.written file lines =
        fun entry => entry.folder = folder && !entry.node.isFolder := by
    funext entry
    rw [Function.comp_apply, FileEntry.isFolder_written]
    rfl
  rw [alike]
  rfl

@[simp] theorem append_nil (file : List Bytes) : tree.append file [] = tree := by
  ext1
  exact (List.map_congr_left fun entry _ => entry.written_nil file).trans (List.map_id _)

@[simp] theorem append_append (file : List Bytes) (first second : List String) :
    (tree.append file first).append file second = tree.append file (first ++ second) := by
  ext1
  simp only [append, List.map_map]
  exact List.map_congr_left fun entry _ => entry.written_written file first second

/-! ## The files of a folder -/

theorem mem_filesIn {name : Bytes} :
    name ∈ tree.filesIn folder ↔
      ∃ entry ∈ tree.entries, entry.path = folder ++ [name] ∧ entry.node.isFolder = false := by
  simp only [filesIn, List.mem_map, List.mem_filter, Bool.and_eq_true, decide_eq_true_eq,
    Bool.not_eq_true', FileEntry.path_eq_iff]
  refine exists_congr fun entry => ?_
  constructor
  · rintro ⟨⟨member, inFolder, isFile⟩, named⟩
    exact ⟨member, ⟨inFolder, named⟩, isFile⟩
  · rintro ⟨member, ⟨inFolder, named⟩, isFile⟩
    exact ⟨⟨member, inFolder, isFile⟩, named⟩

theorem nodup_filesIn (tree : FileTree) (folder : List Bytes) : (tree.filesIn folder).Nodup := by
  have whole : (tree.filesIn folder).map (fun name => folder ++ [name]) =
      (tree.entries.filter fun entry =>
        entry.folder = folder && !entry.node.isFolder).map FileEntry.path := by
    rw [filesIn, List.map_map]
    refine List.map_congr_left fun entry member => ?_
    have kept := (List.mem_filter.mp member).2
    rw [Bool.and_eq_true, decide_eq_true_eq] at kept
    rw [Function.comp_apply, FileEntry.path, kept.1]
  refine List.Nodup.of_map (fun name => folder ++ [name]) ?_
  rw [whole]
  exact tree.distinct.sublist (List.filter_sublist.map _)

theorem filesIn_sublist (kept : made.entries.Sublist tree.entries) :
    (made.filesIn folder).Sublist (tree.filesIn folder) :=
  (kept.filter _).map _

theorem filesIn_eq_append {added : List FileEntry} (grown : made.entries = tree.entries ++ added) :
    made.filesIn folder = tree.filesIn folder ++ ((added.filter fun entry =>
      entry.folder = folder && !entry.node.isFolder).map (·.name)) := by
  rw [filesIn, grown, List.filter_append, List.map_append, filesIn]

theorem filesIn_of_folders {added : List FileEntry} (grown : made.entries = tree.entries ++ added)
    (folders : ∀ entry ∈ added, entry.node.isFolder = true) :
    made.filesIn folder = tree.filesIn folder := by
  have none : added.filter (fun entry => entry.folder = folder && !entry.node.isFolder) = [] :=
    List.filter_eq_nil_iff.mpr fun entry member => by simp [folders entry member]
  rw [filesIn_eq_append grown, none, List.map_nil, List.append_nil]

end FileTree

end MemoryProbe
