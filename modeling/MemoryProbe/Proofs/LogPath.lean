import MemoryProbe.LogPath
import Mathlib.Data.List.TakeWhile

namespace MemoryProbe.LogPath

/-- A path has a file name when its last part is a name, and text. -/
def HasFileName (path : Bytes) (name : String) : Prop :=
  ∃ part, (parts path).getLast? = some part ∧ part ≠ parent ∧ part.toString? = some name

theorem getLast?_parts (path : Bytes) :
    (parts path).getLast? = ((partsBack path).dropWhile isIdle).head? := by
  rw [parts, List.filter_reverse, List.getLast?_reverse, List.head?_filter,
    List.find?_not_eq_head?_dropWhile]

private theorem fileName_ofPath? (path : Bytes) (name : String) :
    (ofPath? path).map (·.fileName) = some name ↔ HasFileName path name := by
  unfold HasFileName ofPath?
  rw [getLast?_parts]
  cases (partsBack path).dropWhile isIdle with
  | nil => simp
  | cons part back =>
      by_cases upwards : part = parent
      · simp [upwards]
      · simp [upwards]

/-- A path is split exactly when it has a file name, and refused by its own text
otherwise. -/
theorem split_eq_refusal_iff (path : Bytes) :
    split path = .error (refusal path) ↔ ¬∃ name, HasFileName path name := by
  simp only [← fileName_ofPath?, split]
  cases ofPath? path with
  | none => simp
  | some found => simp

theorem length_fileAt (path : LogPath) (name : Bytes) :
    (path.fileAt name).length = (path.fileAt []).length + name.length := by
  unfold fileAt
  split
  · simp
  · simp only [List.length_append, List.length_cons, List.length_nil]
    omega

theorem length_directory_le (path : LogPath) :
    path.directory.length ≤ (path.fileAt []).length := by
  unfold fileAt
  split <;> simp

end MemoryProbe.LogPath
