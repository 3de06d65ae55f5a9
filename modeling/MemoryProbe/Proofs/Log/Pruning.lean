import MemoryProbe.Log.Rotation
import MemoryProbe.Proofs.FileTree
import MemoryProbe.Proofs.Log.Date
import MemoryProbe.Proofs.LogPath
import MemoryProbe.Proofs.Text.Marks

namespace MemoryProbe.Log.Rotation

variable {tree : FileTree} {here : List Bytes} {path : LogPath} {name : Bytes}

/-! ## Logs of days and their neighbours -/

/-- A log of a day is named after its log and a date. -/
def IsLogOfDay (path : LogPath) (name : Bytes) : Prop :=
  ∃ date : Date, name = nameOn path date

def BeginsLikeLog (path : LogPath) (name : Bytes) : Prop :=
  ∃ rest : String, name = Bytes.ofString (path.fileName ++ rest)

theorem IsLogOfDay.beginsLikeLog (log : IsLogOfDay path name) : BeginsLikeLog path name := by
  rcases log with ⟨date, rfl⟩
  exact ⟨"." ++ date.text, by rw [nameOn, String.append_assoc]⟩

theorem isOfLog_iff : isOfLog path.fileName name = true ↔ BeginsLikeLog path name := by
  rw [isOfLog, Bool.and_eq_true, List.isPrefixOf_iff_prefix]
  constructor
  · rintro ⟨begins, isText⟩
    rcases Option.isSome_iff_exists.mp isText with ⟨text, decoded⟩
    rw [Bytes.toString?_eq_some_iff] at decoded
    subst decoded
    rcases Bytes.ofString_prefix_iff.mp begins with ⟨rest, rfl⟩
    exact ⟨rest, rfl⟩
  · rintro ⟨rest, rfl⟩
    exact ⟨Bytes.ofString_prefix_iff.mpr ⟨rest, rfl⟩, by simp⟩

theorem canName_iff :
    canName path name = true ↔
      (path.fileAt []).length + name.length ≤ FileTree.maxPathLength := by
  rw [canName, decide_eq_true_eq, LogPath.length_fileAt]

/-- All logs of days have names of one length. -/
theorem IsLogOfDay.canName (log : IsLogOfDay path name) {today : Date}
    (named : canName path (nameOn path today) = true) :
    Rotation.canName path name = true := by
  rcases log with ⟨date, rfl⟩
  have same : (nameOn path date).length = (nameOn path today).length := by
    simp only [nameOn, Bytes.ofString_append, List.length_append, Date.length_text]
  rw [canName_iff] at named ⊢
  rwa [same]

/-! ## What is pruned -/

/-- The folder of a log is known from its path alone. -/
def folderOf (here : List Bytes) (path : LogPath) : List Bytes :=
  FileTree.leadsTo here path.directory

def fileOn (here : List Bytes) (path : LogPath) (today : Date) : List Bytes :=
  folderOf here path ++ [nameOn path today]

def Reads (tree : FileTree) (here : List Bytes) (path : LogPath) : Prop :=
  tree.folder? here path.directory = some (folderOf here path)

/-- Files are outdated when there are two later ones among the neighbours, so long as the
folder can be read and they can be named at all. -/
structure Outdated (tree : FileTree) (here : List Bytes) (path : LogPath) (name : Bytes) :
    Prop where
  read : Reads tree here path
  named : canName path name = true
  followed : ∃ newer newest,
    [name, newer, newest].Sublist (tree.filesIn (folderOf here path)) ∧
      ∀ other ∈ [name, newer, newest], BeginsLikeLog path other

/-- What is outdated is a file, as there is only one entry of its path. -/
theorem Outdated.isFile {entry : FileEntry} (outdated : Outdated tree here path entry.name)
    (member : entry ∈ tree.entries) (inFolder : entry.folder = folderOf here path) :
    entry.node.isFolder = false := by
  rcases outdated.followed with ⟨newer, newest, inside, -⟩
  rcases FileTree.mem_filesIn.mp (inside.subset List.mem_cons_self) with
    ⟨file, fileMember, same, isFile⟩
  have one : entry = file := FileTree.eq_of_path_eq member fileMember
    (by rw [same, FileEntry.path, inFolder])
  rw [one, isFile]

private theorem mem_take_iff_sublist {Value : Type} {values : List Value} {value : Value} :
    value ∈ values.take (values.length - 2) ↔
      ∃ newer newest, [value, newer, newest].Sublist values := by
  constructor
  · intro early
    have long : 2 < values.length := by
      have bounded := List.length_pos_of_mem early
      rw [List.length_take] at bounded
      omega
    have late : (values.drop (values.length - 2)).length = 2 := by
      rw [List.length_drop]
      omega
    rcases List.length_eq_two.mp late with ⟨newer, newest, ends⟩
    refine ⟨newer, newest, ?_⟩
    rw [← List.take_append_drop (values.length - 2) values, ends]
    exact (List.singleton_sublist.mpr early).append (List.Sublist.refl _)
  · rintro ⟨newer, newest, kept⟩
    rcases List.cons_sublist_iff.mp kept with ⟨early, late, rfl, member, later⟩
    have twoLater : 2 ≤ late.length := later.length_le
    have whole : early.length ≤ (early ++ late).length - 2 := by
      rw [List.length_append]
      omega
    rw [List.take_append, List.take_of_length_le whole]
    exact List.mem_append_left _ member

private theorem mem_expired {names : List Bytes} :
    name ∈ expired path.fileName names ↔
      ∃ newer newest, [name, newer, newest].Sublist names ∧
        ∀ other ∈ [name, newer, newest], BeginsLikeLog path other := by
  rw [expired, maxFiles, mem_take_iff_sublist]
  refine exists_congr fun newer => exists_congr fun newest => ?_
  constructor
  · intro inside
    exact ⟨inside.trans List.filter_sublist, fun other member =>
      isOfLog_iff.mp (List.mem_filter.mp (inside.subset member)).2⟩
  · rintro ⟨inside, alike⟩
    have filtered := inside.filter (isOfLog path.fileName)
    rwa [List.filter_eq_self.mpr fun other member => isOfLog_iff.mpr (alike other member)]
      at filtered

theorem prune_of_not_reads (unread : ¬Reads tree here path) : prune here tree path = tree := by
  unfold prune
  cases found : tree.folder? here path.directory with
  | none => rfl
  | some folder =>
      rw [FileTree.eq_leadsTo_of_folder? found] at found
      exact absurd found unread

private theorem prune_cases (here : List Bytes) (tree : FileTree) (path : LogPath) :
    prune here tree path = tree ∨ ∃ gone, prune here tree path = tree.removeFiles gone := by
  unfold prune
  split
  · exact .inl rfl
  · split
    · exact .inr ⟨_, rfl⟩
    · exact .inl rfl

theorem prune_sublist : (prune here tree path).entries.Sublist tree.entries := by
  rcases prune_cases here tree path with same | ⟨gone, pruned⟩
  · rw [same]
  · rw [pruned]
    exact List.filter_sublist

theorem mem_prune_of_isFolder {entry : FileEntry} (member : entry ∈ tree.entries)
    (isFolder : entry.node.isFolder = true) : entry ∈ (prune here tree path).entries := by
  rcases prune_cases here tree path with same | ⟨gone, pruned⟩
  · rwa [same]
  · rw [pruned]
    exact (FileTree.mem_removeFiles gone).mpr ⟨member, .inl isFolder⟩

/-- A pruned folder has lost what was outdated and nothing else. -/
theorem mem_prune (takes : Reads tree here path → tree.takesFiles (folderOf here path) = true)
    (entry : FileEntry) :
    entry ∈ (prune here tree path).entries ↔
      entry ∈ tree.entries ∧
        ¬(entry.folder = folderOf here path ∧ Outdated tree here path entry.name) := by
  by_cases reads : Reads tree here path
  · have found := reads
    rw [Reads] at found
    simp only [prune, found, takes reads, if_true, FileTree.mem_removeFiles]
    refine and_congr_right fun member => ?_
    have gone : entry.path ∈ ((expired path.fileName (tree.filesIn (folderOf here path))).filter
        (canName path)).map (fun name => folderOf here path ++ [name]) ↔
        entry.folder = folderOf here path ∧ Outdated tree here path entry.name := by
      simp only [List.mem_map, List.mem_filter, mem_expired]
      constructor
      · rintro ⟨name, ⟨followed, named⟩, same⟩
        rcases FileEntry.path_eq_iff.mp same.symm with ⟨inFolder, rfl⟩
        exact ⟨inFolder, reads, named, followed⟩
      · rintro ⟨inFolder, outdated⟩
        exact ⟨entry.name, ⟨outdated.followed, outdated.named⟩, by rw [FileEntry.path, inFolder]⟩
    rw [gone]
    constructor
    · rintro (isFolder | fresh) outdated
      · rw [outdated.2.isFile member outdated.1] at isFolder
        cases isFolder
      · exact fresh outdated
    · exact .inr
  · rw [prune_of_not_reads reads]
    exact (and_iff_left fun outdated => reads outdated.2.read).symm

theorem mem_filesIn_prune
    (takes : Reads tree here path → tree.takesFiles (folderOf here path) = true) :
    name ∈ (prune here tree path).filesIn (folderOf here path) ↔
      name ∈ tree.filesIn (folderOf here path) ∧ ¬Outdated tree here path name := by
  rw [FileTree.mem_filesIn, FileTree.mem_filesIn]
  constructor
  · rintro ⟨entry, member, same, isFile⟩
    have survives := (mem_prune takes entry).mp member
    rcases FileEntry.path_eq_iff.mp same with ⟨inFolder, rfl⟩
    exact ⟨⟨entry, survives.1, same, isFile⟩, fun outdated => survives.2 ⟨inFolder, outdated⟩⟩
  · rintro ⟨⟨entry, member, same, isFile⟩, fresh⟩
    rcases FileEntry.path_eq_iff.mp same with ⟨inFolder, rfl⟩
    have survives := (mem_prune takes entry).mpr ⟨member, fun outdated => fresh outdated.2⟩
    exact ⟨entry, survives, same, isFile⟩

/-- No three logs of days are left in a folder that was pruned. -/
theorem length_le_two_of_pruned {today : Date} (reads : Reads tree here path)
    (takes : tree.takesFiles (folderOf here path) = true)
    (named : canName path (nameOn path today) = true) {logs : List Bytes}
    (inside : logs.Sublist ((prune here tree path).filesIn (folderOf here path)))
    (ofDays : ∀ log ∈ logs, IsLogOfDay path log) : logs.length ≤ 2 := by
  match logs, inside, ofDays with
  | [], _, _ => exact Nat.zero_le 2
  | [_], _, _ => exact Nat.le_succ 1
  | [_, _], _, _ => exact Nat.le_refl 2
  -- The first of three would have been pruned, for the sake of the other two.
  | first :: second :: third :: others, inside, ofDays =>
      have three : [first, second, third].Sublist (first :: second :: third :: others) :=
        List.sublist_append_left [first, second, third] others
      have outdated : Outdated tree here path first :=
        { read := reads
          named := (ofDays first List.mem_cons_self).canName named
          followed := ⟨second, third,
            three.trans (inside.trans (FileTree.filesIn_sublist prune_sublist)),
            fun other member => (ofDays other (three.subset member)).beginsLikeLog⟩ }
      have survives := (mem_filesIn_prune fun _ => takes).mp (inside.subset List.mem_cons_self)
      exact absurd outdated survives.2

end MemoryProbe.Log.Rotation
