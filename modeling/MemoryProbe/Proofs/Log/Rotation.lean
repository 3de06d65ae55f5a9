import MemoryProbe.Proofs.Log.Pruning
import Mathlib.Tactic.Tauto

namespace MemoryProbe.Log.Rotation

open FileTree (OnTheWay start)

variable {tree opened : FileTree} {here : List Bytes} {path : LogPath} {today : Date}

/-! ## Opening a log -/

/-- An opened log stands in the pruned tree, together with the folders on the way to it and
with the file of the day, which is new if it was not there. -/
structure Opened (tree opened : FileTree) (here : List Bytes) (path : LogPath) (today : Date)
    (folders file : List FileEntry) : Prop where
  named : canName path (nameOn path today) = true
  takes : Reads tree here path → tree.takesFiles (folderOf here path) = true
  entries : opened.entries = (prune here tree path).entries ++ folders ++ file
  onTheWay : ∀ entry ∈ folders,
    OnTheWay (start here path.directory) (LogPath.parts path.directory) entry
  ofDay : file = [] ∧ nameOn path today ∈ (prune here tree path).filesIn (folderOf here path) ∨
    file = [⟨folderOf here path, nameOn path today, .file []⟩] ∧
      fileOn here path today ∉ (prune here tree path).paths

private theorem takesFiles_of_reads {made : FileTree} (isHere : tree.hasFolder here = true)
    (kept : (prune here tree path).entries ⊆ made.entries)
    (takes : made.takesFiles (folderOf here path) = true) (reads : Reads tree here path) :
    tree.takesFiles (folderOf here path) = true := by
  have there := FileTree.hasFolder_of_folder? isHere reads
  rw [FileTree.takesFiles_iff] at takes ⊢
  rw [FileTree.hasFolder_iff] at there
  rcases takes with root | ⟨entry, member, same, node⟩
  · exact .inl root
  rcases there with root | ⟨old, oldMember, oldSame, isFolder⟩
  · exact .inl root
  · have one : entry = old := FileTree.eq_of_path_eq member
      (kept (mem_prune_of_isFolder oldMember isFolder)) (same.trans oldSame.symm)
    exact .inr ⟨old, oldMember, oldSame, one ▸ node⟩

private theorem makeFolders_eq {pruned made : FileTree} {last : List Bytes}
    (success : makeFolders here pruned path = (made, some last)) :
    last = folderOf here path ∧ ∃ folders, made.entries = pruned.entries ++ folders ∧
      ∀ entry ∈ folders,
        OnTheWay (start here path.directory) (LogPath.parts path.directory) entry := by
  unfold makeFolders at success
  split at success
  · have ends := FileTree.eq_walk_of_makeFolders (congrArg Prod.snd success)
    have grows := FileTree.makeFolders_entries pruned (start here path.directory)
      (LogPath.parts path.directory)
    rw [success] at grows
    exact ⟨ends, grows⟩
  · cases success

theorem opened_of_openLog {file : List Bytes} (isHere : tree.hasFolder here = true)
    (success : openLog here today tree path = (opened, some file)) :
    file = fileOn here path today ∧
      ∃ folders new, Opened tree opened here path today folders new := by
  unfold openLog at success
  split at success
  case h_1 => cases success
  case h_2 made last making =>
    rcases makeFolders_eq making with ⟨rfl, folders, grown, onTheWay⟩
    split at success
    case h_1 => cases success
    case h_2 opening =>
      cases success
      rw [openFile, Option.ite_none_right_eq_some] at opening
      rcases FileTree.openFile_eq_some opening.2 with ⟨takes, found⟩
      have kept : (prune here tree path).entries ⊆ made.entries :=
        grown ▸ List.subset_append_left _ _
      have areFolders : ∀ entry ∈ folders, entry.node.isFolder = true := fun entry member => by
        rw [(onTheWay entry member).1, FileNode.isFolder]
      have reads := takesFiles_of_reads isHere kept takes
      refine ⟨rfl, folders, ?_⟩
      rcases found with ⟨rfl, there⟩ | ⟨free, new⟩
      · refine ⟨[], opening.1, reads, by rw [grown, List.append_nil], onTheWay, .inl ⟨rfl, ?_⟩⟩
        rw [← FileTree.filesIn_of_folders grown areFolders]
        exact FileTree.mem_filesIn.mpr there
      · refine ⟨_, opening.1, reads, by rw [new, grown], onTheWay, .inr ⟨rfl, ?_⟩⟩
        exact fun old => free (List.map_subset _ kept old)

namespace Opened

variable {folders file : List FileEntry} (opens : Opened tree opened here path today folders file)

include opens

private theorem short : path.directory.length ≤ FileTree.maxPathLength := by
  have named := canName_iff.mp opens.named
  have within := path.length_directory_le
  omega

private theorem kept : (prune here tree path).entries ⊆ opened.entries := by
  rw [opens.entries, List.append_assoc]
  exact List.subset_append_left _ _

private theorem mem_cases {entry : FileEntry} (member : entry ∈ opened.entries) :
    entry ∈ (prune here tree path).entries ∨ entry.path = fileOn here path today ∨
      OnTheWay (start here path.directory) (LogPath.parts path.directory) entry := by
  rw [opens.entries, List.mem_append, List.mem_append] at member
  rcases member with (old | folder) | new
  · exact .inl old
  · exact .inr (.inr (opens.onTheWay entry folder))
  · rcases opens.ofDay with ⟨rfl, -⟩ | ⟨rfl, -⟩
    · cases new
    · rw [List.mem_singleton.mp new]
      exact .inr (.inl rfl)

private theorem filesIn_eq :
    opened.filesIn (folderOf here path) =
      (prune here tree path).filesIn (folderOf here path) ++ file.map FileEntry.name := by
  have grown := opens.entries
  rw [List.append_assoc] at grown
  have none : folders.filter (fun entry =>
      entry.folder = folderOf here path && !entry.node.isFolder) = [] :=
    List.filter_eq_nil_iff.mpr fun entry member => by
      rw [(opens.onTheWay entry member).1, FileNode.isFolder, Bool.not_true, Bool.and_false]
      exact Bool.false_ne_true
  rw [FileTree.filesIn_eq_append grown, List.filter_append, none, List.nil_append]
  rcases opens.ofDay with ⟨rfl, -⟩ | ⟨rfl, -⟩
  · rfl
  · rw [List.filter_singleton]
    simp [FileNode.isFolder]

theorem mem_filesIn : nameOn path today ∈ opened.filesIn (folderOf here path) := by
  rw [opens.filesIn_eq, List.mem_append]
  rcases opens.ofDay with ⟨-, there⟩ | ⟨rfl, -⟩
  · exact .inl there
  · exact .inr List.mem_cons_self

private theorem holds_of_not_mem
    (missing : nameOn path today ∉ (prune here tree path).filesIn (folderOf here path)) :
    opened.Holds (fileOn here path today) [] := by
  rcases opens.ofDay with ⟨-, there⟩ | ⟨rfl, -⟩
  · exact absurd there missing
  · refine ⟨⟨folderOf here path, nameOn path today, .file []⟩, ?_, rfl, rfl⟩
    rw [opens.entries]
    exact List.mem_append_right _ List.mem_cons_self

/-- What was pruned is gone, unless it is the file of the day. -/
theorem path_mem_iff (isHere : tree.hasFolder here = true) {entry : FileEntry}
    (member : entry ∈ tree.entries) :
    entry.path ∈ opened.paths ↔
      ¬(entry.folder = folderOf here path ∧ Outdated tree here path entry.name) ∨
        entry.path = fileOn here path today := by
  constructor
  · intro found
    rcases List.mem_map.mp found with ⟨other, otherMember, same⟩
    by_cases outdated : entry.folder = folderOf here path ∧ Outdated tree here path entry.name
    · right
      rcases opens.mem_cases otherMember with old | ofDay | folder
      · have survives := (mem_prune opens.takes other).mp old
        have one := FileTree.eq_of_path_eq survives.1 member same
        exact absurd (one ▸ outdated) survives.2
      · exact same.symm.trans ofDay
      · -- The folders on the way were all there, so a file is none of them.
        rcases folder.2 with ⟨front, begins, walked⟩
        have there := FileTree.hasFolder_of_front isHere outdated.2.read begins
        rw [← walked, same, FileTree.hasFolder_iff] at there
        rcases there with root | ⟨below, belowMember, belowSame, isFolder⟩
        · exact absurd root (List.concat_ne_nil _ _)
        · rw [FileTree.eq_of_path_eq belowMember member belowSame,
            outdated.2.isFile member outdated.1] at isFolder
          cases isFolder
    · exact .inl outdated
  · rintro (fresh | ofDay)
    · have survives := (mem_prune opens.takes entry).mpr ⟨member, fresh⟩
      exact List.mem_map_of_mem (opens.kept survives)
    · rcases FileTree.mem_filesIn.mp opens.mem_filesIn with ⟨file, fileMember, same, -⟩
      rw [ofDay, fileOn, ← same]
      exact List.mem_map_of_mem fileMember

end Opened

/-! ## What rotation promises -/

/-- Nothing is to be lost but logs of days. -/
def LosesLogsOnly (before after : FileTree) (here : List Bytes) (path : LogPath) : Prop :=
  ∀ entry ∈ before.entries,
    ¬(entry.folder = folderOf here path ∧ IsLogOfDay path entry.name) → entry.path ∈ after.paths

def AtMost (count : Nat) (names : List Bytes) (kind : Bytes → Prop) : Prop :=
  ∀ chosen : List Bytes, chosen.Sublist names → (∀ name ∈ chosen, kind name) →
    chosen.length ≤ count

theorem atMost_iff_countP {count : Nat} {names : List Bytes} {kind : Bytes → Prop}
    [DecidablePred kind] :
    AtMost count names kind ↔ names.countP (fun name => kind name) ≤ count := by
  constructor
  · intro few
    rw [List.countP_eq_length_filter]
    exact few _ List.filter_sublist fun name member => by simpa using (List.mem_filter.mp member).2
  · intro few chosen inside alike
    have all : chosen.countP (fun name => kind name) = chosen.length :=
      List.countP_eq_length.mpr fun name member => by simpa using alike name member
    rw [← all]
    exact Nat.le_trans inside.countP_le few

/-! ## What rotation does -/

structure Rotated (before after : FileTree) (here : List Bytes) (path : LogPath) (today : Date)
    (lines : List String) : Prop where
  kept : ∀ entry ∈ before.entries,
    ¬(entry.folder = folderOf here path ∧ Outdated before here path entry.name) →
      entry.path ≠ fileOn here path today → entry ∈ after.entries
  continued : ∀ earlier, before.Holds (fileOn here path today) earlier →
    ¬Outdated before here path (nameOn path today) →
      after.Holds (fileOn here path today) (earlier ++ lines)
  begun : fileOn here path today ∉ before.paths ∨ Outdated before here path (nameOn path today) →
    after.Holds (fileOn here path today) lines
  nothingNew : ∀ entry ∈ after.entries,
    entry ∈ before.entries ∨ entry.path = fileOn here path today ∨
      OnTheWay (start here path.directory) (LogPath.parts path.directory) entry
  lost : ∀ entry ∈ before.entries,
    entry.path ∉ after.paths ↔
      (entry.folder = folderOf here path ∧ Outdated before here path entry.name) ∧
        entry.path ≠ fileOn here path today
  ofDay : nameOn path today ∈ after.filesIn (folderOf here path)
  losesLogsOnly : LosesLogsOnly before after here path ↔
    ∀ name, Outdated before here path name → IsLogOfDay path name
  atMostThree : AtMost 3 (after.filesIn (folderOf here path)) (IsLogOfDay path) ↔
    Reads before here path ∨ AtMost 2 (before.filesIn (folderOf here path)) fun name =>
      IsLogOfDay path name ∧ name ≠ nameOn path today
  forward : LogPath.parent ∉ LogPath.parts path.directory →
    AtMost 3 (after.filesIn (folderOf here path)) (IsLogOfDay path)

/-- Every log of a day counts, and that of today counts once. -/
theorem atMost_three_iff {names : List Bytes} (distinct : names.Nodup)
    (there : nameOn path today ∈ names) :
    AtMost 3 names (IsLogOfDay path) ↔
      AtMost 2 names fun name => IsLogOfDay path name ∧ name ≠ nameOn path today := by
  classical
  have once : names.countP (fun name => decide (name = nameOn path today)) = 1 := by
    rw [← List.count_eq_one_of_mem distinct there, List.count]
    exact List.countP_congr fun name _ => by simp
  have logs : names.countP (fun name => decide (IsLogOfDay path name)) =
      names.countP (fun name => decide (IsLogOfDay path name ∧ name ≠ nameOn path today)) +
        names.countP (fun name => decide (name = nameOn path today)) := by
    rw [List.countP_eq_countP_filter_add names _ fun name => decide (name ≠ nameOn path today),
      List.countP_filter, List.countP_filter]
    congr 1
    · exact List.countP_congr fun name _ => by simp
    · refine List.countP_congr fun name _ => ?_
      simp only [Bool.and_eq_true, decide_eq_true_eq, Bool.not_eq_true', decide_eq_false_iff_not,
        not_not]
      constructor
      · exact fun both => both.2
      · rintro rfl
        exact ⟨⟨today, rfl⟩, rfl⟩
  rw [atMost_iff_countP, atMost_iff_countP]
  omega

namespace Opened

variable {folders file : List FileEntry} (opens : Opened tree opened here path today folders file)

include opens

/-- Opening a log adds no other log of a day. -/
theorem atMost_three_iff :
    AtMost 3 (opened.filesIn (folderOf here path)) (IsLogOfDay path) ↔
      AtMost 2 ((prune here tree path).filesIn (folderOf here path)) fun name =>
        IsLogOfDay path name ∧ name ≠ nameOn path today := by
  classical
  rw [Rotation.atMost_three_iff (opened.nodup_filesIn _) opens.mem_filesIn, atMost_iff_countP,
    atMost_iff_countP, opens.filesIn_eq, List.countP_append]
  rcases opens.ofDay with ⟨rfl, -⟩ | ⟨rfl, -⟩ <;> simp

theorem atMostThree :
    AtMost 3 (opened.filesIn (folderOf here path)) (IsLogOfDay path) ↔
      Reads tree here path ∨ AtMost 2 (tree.filesIn (folderOf here path)) fun name =>
        IsLogOfDay path name ∧ name ≠ nameOn path today := by
  rw [opens.atMost_three_iff]
  by_cases reads : Reads tree here path
  · refine iff_of_true (fun logs inside others => ?_) (.inl reads)
    exact length_le_two_of_pruned reads (opens.takes reads) opens.named inside
      fun log member => (others log member).1
  · rw [prune_of_not_reads reads, or_iff_right reads]

/-- A folder that is there can be read along a path that never turns back. -/
theorem atMost_three_of_forward (forward : LogPath.parent ∉ LogPath.parts path.directory) :
    AtMost 3 (opened.filesIn (folderOf here path)) (IsLogOfDay path) := by
  rw [opens.atMostThree]
  by_cases reads : Reads tree here path
  · exact .inl reads
  · right
    intro logs inside others
    cases logs with
    | nil => exact Nat.zero_le 2
    | cons log rest =>
        rcases FileTree.mem_filesIn.mp (inside.subset List.mem_cons_self) with
          ⟨entry, member, same, -⟩
        have there := (tree.standing entry member).2
        rw [(FileEntry.path_eq_iff.mp same).1, folderOf, FileTree.leadsTo,
          FileTree.walk_forward forward] at there
        refine absurd ?_ reads
        rw [Reads, FileTree.folder?, if_pos opens.short, folderOf, FileTree.leadsTo,
          FileTree.walk_forward forward]
        exact FileTree.foldlM_enter_of_hasFolder forward there

/-- What a log that was opened leaves behind once lines are written to it. -/
theorem rotated (isHere : tree.hasFolder here = true) (lines : List String) :
    Rotated tree (opened.append (fileOn here path today) lines) here path today lines := by
  have lost : ∀ entry ∈ tree.entries,
      entry.path ∉ (opened.append (fileOn here path today) lines).paths ↔
        (entry.folder = folderOf here path ∧ Outdated tree here path entry.name) ∧
          entry.path ≠ fileOn here path today := by
    intro entry member
    rw [FileTree.paths_append, opens.path_mem_iff isHere member, not_or, not_not]
  constructor
  case lost => exact lost
  case kept =>
    intro entry member fresh different
    have survives := (mem_prune opens.takes entry).mpr ⟨member, fresh⟩
    exact FileTree.mem_append_of_ne (opens.kept survives) different lines
  case continued =>
    rintro earlier ⟨entry, member, same, node⟩ fresh
    have named := (FileEntry.path_eq_iff.mp same).2
    have survives := (mem_prune opens.takes entry).mpr
      ⟨member, fun outdated => fresh (named ▸ outdated.2)⟩
    exact FileTree.Holds.append ⟨entry, opens.kept survives, same, node⟩ lines
  case begun =>
    intro missing
    refine FileTree.Holds.append (opens.holds_of_not_mem ?_) lines
    rw [mem_filesIn_prune opens.takes]
    rintro ⟨there, fresh⟩
    rcases missing with missing | outdated
    · rcases FileTree.mem_filesIn.mp there with ⟨entry, member, same, -⟩
      refine missing ?_
      rw [fileOn, ← same]
      exact List.mem_map_of_mem member
    · exact fresh outdated
  case nothingNew =>
    intro entry member
    rcases FileTree.mem_or_written_of_mem_append member with old | written
    · exact (opens.mem_cases old).imp_left fun survives => prune_sublist.subset survives
    · exact .inr (.inl written)
  case ofDay =>
    rw [FileTree.filesIn_append]
    exact opens.mem_filesIn
  case losesLogsOnly =>
    constructor
    · intro keeps name outdated
      by_contra unlogged
      rcases outdated.followed with ⟨newer, newest, inside, -⟩
      rcases FileTree.mem_filesIn.mp (inside.subset List.mem_cons_self) with
        ⟨entry, member, same, -⟩
      rcases FileEntry.path_eq_iff.mp same with ⟨inFolder, rfl⟩
      refine (lost entry member).mpr ⟨⟨inFolder, outdated⟩, ?_⟩ (keeps entry member ?_)
      · intro ofDay
        exact unlogged ⟨today, (FileEntry.path_eq_iff.mp ofDay).2⟩
      · exact fun log => unlogged log.2
    · intro logs entry member unlogged
      by_contra gone
      have outdated := ((lost entry member).mp gone).1
      exact unlogged ⟨outdated.1, logs entry.name outdated.2⟩
  case atMostThree =>
    rw [FileTree.filesIn_append]
    exact opens.atMostThree
  case forward =>
    rw [FileTree.filesIn_append]
    exact opens.atMost_three_of_forward

end Opened

end MemoryProbe.Log.Rotation
