import MemoryProbe.Proofs.Log.Rotation
import MemoryProbe.Proofs.Probe.Samples

namespace MemoryProbe.Probe

open Log.Rotation

/-! ## The files of a run -/

variable {around : Surroundings} {options : CommandLine.Options} {path : LogPath}
  {tree : FileTree} {logFile : Option (List Bytes)} {file : List Bytes}

/-- A run leaves its files with what it logged, whether or not it breaks off. -/
theorem tree_run
    (parsed : CommandLine.parse around.environment around.arguments = .ok options)
    (opens : LogOpens around options tree logFile) :
    (run around).tree = logFile.elim tree (tree.append · (run around).logged) := by
  cases found : (Log.Filter.ofVariable around.logVariable).filter with
  | none =>
      rw [Log.Filter.filter_ofVariable_eq_none] at found
      rw [run_of_breaks around parsed opens found]
      cases logFile with
      | none => rfl
      | some file => exact (tree.append_nil file).symm
  | some filter =>
      rw [run_of_filter around parsed opens found]
      exact (sampled_printsSamples opens found).kept

/-- A run that opens a log file loses the files in the folder of its log that begin like
the log and have two such files after them, and keeps every other file and folder as it is,
except for the file of the day, which is made or written on. What else is new are folders
on the way to the log. The run loses nothing but logs of days exactly when all those outdated
files are logs of days, and leaves at most three logs of days exactly when it could read the
folder or there were no more than two others from the start. -/
theorem rotation_removes_outdated {written : Bytes}
    (parsed : CommandLine.parse around.environment around.arguments = .ok options)
    (given : options.logFile = some written) (accepted : LogPath.split written = .ok path)
    (opened : openLog around.here around.today around.tree path = (tree, some file)) :
    Rotated around.tree (run around).tree around.here path around.today (run around).logged := by
  have left := tree_run parsed (.filed given accepted opened)
  rcases opened_of_openLog around.isHere opened with ⟨rfl, folders, new, opens⟩
  rw [left]
  exact opens.rotated around.isHere (run around).logged

def filesAt (folder : List Bytes) (names : List String) : List FileEntry :=
  names.map fun name => ⟨folder, Bytes.ofString name, .file []⟩

/-- Three files of another log stand here, whose name goes on where that of the log ends. -/
def neighbours : Surroundings :=
  { shortDevice with
    arguments := ["--log-file", "p.log"].map Bytes.ofString
    tree := {
      entries := ⟨[], work, .folder true⟩ ::
        filesAt [work] ["p.log-x.2020-01-01", "p.log-x.2020-01-02", "p.log-x.2020-01-03"]
      distinct := by decide +kernel
      standing := by decide +kernel }
    isHere := by decide +kernel }

/-- The oldest of them is gone after the run, to make room for the file of the day. -/
def afterNeighbours : FileTree where
  entries := ⟨[], work, .folder true⟩ ::
    filesAt [work] ["p.log-x.2020-01-02", "p.log-x.2020-01-03", "p.log.2026-01-01"]
  distinct := by decide +kernel
  standing := by decide +kernel

def optionsFor (written : String) : CommandLine.Options :=
  ⟨.text, 1, 1000, some (Bytes.ofString written)⟩

private theorem split_of_ofPath? {written : Bytes} (found : LogPath.ofPath? written = some path) :
    LogPath.split written = .ok path := by
  rw [LogPath.split, found]

/-- The way to a log may lead through the root and back. -/
def fromRoot : Surroundings :=
  { neighbours with arguments := ["--log-file", "/work/p.log"].map Bytes.ofString }

theorem rotation_removes_outdated_from_root :
    CommandLine.parse fromRoot.environment fromRoot.arguments = .ok (optionsFor "/work/p.log") ∧
      LogPath.split (Bytes.ofString "/work/p.log") = .ok ⟨Bytes.ofString "/work", "p.log"⟩ ∧
      openLog fromRoot.here fromRoot.today fromRoot.tree ⟨Bytes.ofString "/work", "p.log"⟩ =
        (afterNeighbours, some [work, Bytes.ofString "p.log.2026-01-01"]) ∧
      Rotated fromRoot.tree (run fromRoot).tree fromRoot.here ⟨Bytes.ofString "/work", "p.log"⟩
        fromRoot.today (run fromRoot).logged := by
  have parsed : CommandLine.parse fromRoot.environment fromRoot.arguments =
      .ok (optionsFor "/work/p.log") := rfl
  have accepted : LogPath.split (Bytes.ofString "/work/p.log") =
      .ok ⟨Bytes.ofString "/work", "p.log"⟩ := split_of_ofPath? (by decide +kernel)
  have opened : openLog fromRoot.here fromRoot.today fromRoot.tree
      ⟨Bytes.ofString "/work", "p.log"⟩ =
        (afterNeighbours, some [work, Bytes.ofString "p.log.2026-01-01"]) := by decide +kernel
  exact ⟨parsed, accepted, opened, rotation_removes_outdated parsed rfl accepted opened⟩

private theorem not_isLogOfDay_neighbour {directory : Bytes} :
    ¬IsLogOfDay ⟨directory, "p.log"⟩ (Bytes.ofString "p.log-x.2020-01-01") := by
  rintro ⟨date, same⟩
  rw [nameOn, Bytes.ofString_append] at same
  have begins : Bytes.ofString "p.log." <+: Bytes.ofString "p.log-x.2020-01-01" :=
    ⟨Bytes.ofString date.text, same.symm⟩
  exact absurd begins (by decide +kernel)

theorem neighbours_lost :
    CommandLine.parse neighbours.environment neighbours.arguments = .ok (optionsFor "p.log") ∧
      LogPath.split (Bytes.ofString "p.log") = .ok ⟨[LogPath.dot], "p.log"⟩ ∧
      openLog neighbours.here neighbours.today neighbours.tree ⟨[LogPath.dot], "p.log"⟩ =
        (afterNeighbours, some [work, Bytes.ofString "p.log.2026-01-01"]) ∧
      ¬LosesLogsOnly neighbours.tree (run neighbours).tree neighbours.here
        ⟨[LogPath.dot], "p.log"⟩ := by
  refine ⟨rfl, split_of_ofPath? (by decide +kernel), by decide +kernel, fun keeps => ?_⟩
  have oldest : ⟨[work], Bytes.ofString "p.log-x.2020-01-01", .file []⟩ ∈
      neighbours.tree.entries := by decide +kernel
  have gone : [work, Bytes.ofString "p.log-x.2020-01-01"] ∉ (run neighbours).tree.paths := by
    decide +kernel
  exact gone (keeps _ oldest fun log => not_isLogOfDay_neighbour log.2)

def logs : Bytes :=
  Bytes.ofString "l"

/-- The way leads through a folder that is missing until the run makes it. -/
def detour : Surroundings :=
  { shortDevice with
    arguments := ["--log-file", "m/../l/p.log"].map Bytes.ofString
    tree := {
      entries := ⟨[], work, .folder true⟩ :: ⟨[work], logs, .folder true⟩ ::
        filesAt [work, logs] ["p.log.2020-01-01", "p.log.2020-01-02", "p.log.2020-01-03",
          "p.log.2020-01-04", "p.log.2020-01-05"]
      distinct := by decide +kernel
      standing := by decide +kernel }
    isHere := by decide +kernel }

/-- A folder that cannot be read when the log is opened is not pruned: the five logs of days
become six. -/
theorem detour_keeps_six_logs :
    CommandLine.parse detour.environment detour.arguments = .ok (optionsFor "m/../l/p.log") ∧
      LogPath.split (Bytes.ofString "m/../l/p.log") =
        .ok ⟨Bytes.ofString "m/../l", "p.log"⟩ ∧
      folderOf detour.here ⟨Bytes.ofString "m/../l", "p.log"⟩ = [work, logs] ∧
      ((run detour).tree.filesIn [work, logs]).length = 6 ∧
      ¬AtMost 3 ((run detour).tree.filesIn [work, logs])
        (IsLogOfDay ⟨Bytes.ofString "m/../l", "p.log"⟩) := by
  refine ⟨rfl, split_of_ofPath? (by decide +kernel), by decide +kernel, by decide +kernel,
    fun few => ?_⟩
  have inside : (["p.log.2020-01-01", "p.log.2020-01-02", "p.log.2020-01-03",
      "p.log.2020-01-04"].map Bytes.ofString).Sublist ((run detour).tree.filesIn [work, logs]) := by
    decide +kernel
  refine absurd (few _ inside ?_) (by decide)
  intro name member
  simp only [List.map_cons, List.map_nil, List.mem_cons, List.not_mem_nil, or_false] at member
  rcases member with rfl | rfl | rfl | rfl
  · exact ⟨⟨2020, 1, 1, by decide, by decide, by decide⟩, by decide +kernel⟩
  · exact ⟨⟨2020, 1, 2, by decide, by decide, by decide⟩, by decide +kernel⟩
  · exact ⟨⟨2020, 1, 3, by decide, by decide, by decide⟩, by decide +kernel⟩
  · exact ⟨⟨2020, 1, 4, by decide, by decide, by decide⟩, by decide +kernel⟩

end MemoryProbe.Probe
