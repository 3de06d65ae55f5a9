import MemoryProbe.Proofs.Json.Snapshot
import MemoryProbe.Proofs.Reporting
import MemoryProbe.Proofs.Utf8

namespace MemoryProbe

/-- A report in JSON is one line. -/
def Snapshot.jsonLine (snapshot : Snapshot) : List Char :=
  Text.joined snapshot.jsonPieces

def Snapshot.ofJsonLine? (line : List Char) : Option Snapshot :=
  (Json.read line).bind Snapshot.ofValue?

theorem Snapshot.newline_not_mem_jsonLine (snapshot : Snapshot) :
    '\n' ∉ snapshot.jsonLine := by
  rw [jsonLine, joined_jsonPieces]
  exact Json.newline_not_mem_render snapshot.toValue

theorem Snapshot.read_jsonLine (snapshot : Snapshot) :
    Json.read snapshot.jsonLine = some snapshot.toValue := by
  rw [jsonLine, joined_jsonPieces, Json.read_render]

theorem Snapshot.ofJsonLine?_jsonLine (snapshot : Snapshot) :
    ofJsonLine? snapshot.jsonLine = some snapshot := by
  rw [ofJsonLine?, read_jsonLine, Option.bind_some, ofValue?_toValue]

namespace Report

theorem bytes_json_eq_line (snapshot : Snapshot) :
    bytes .json snapshot = Bytes.ofChars (snapshot.jsonLine ++ ['\n']) := by
  have newline : (chunks ["\n"]).flatten = Bytes.ofChars ['\n'] := rfl
  rw [bytes_json, flatten_chunks, newline, Bytes.ofChars_append, Snapshot.jsonLine]

theorem allBytes_json (snapshots : List Snapshot) :
    allBytes .json snapshots =
      Bytes.ofChars (Text.ended (snapshots.map Snapshot.jsonLine)) := by
  induction snapshots with
  | nil => rfl
  | cons snapshot rest induction =>
      rw [allBytes_cons, bytes_json_eq_line, induction, List.map_cons, Text.ended_cons,
        ← Bytes.ofChars_append, List.append_assoc, List.singleton_append]

/-- A reader of the whole stream: its text, the lines of that, and a snapshot from
each. -/
def ofJsonStream? (stream : Bytes) : Option (List Snapshot) := do
  let text ← stream.toChars?
  let lines ← Text.endedLines? text
  lines.mapM Snapshot.ofJsonLine?

private theorem newline_not_mem_jsonLines (snapshots : List Snapshot) :
    ∀ line ∈ snapshots.map Snapshot.jsonLine, '\n' ∉ line := by
  intro line member
  rcases List.mem_map.mp member with ⟨snapshot, _, rfl⟩
  exact snapshot.newline_not_mem_jsonLine

private theorem mapM_ofJsonLine? (snapshots : List Snapshot) :
    (snapshots.map Snapshot.jsonLine).mapM Snapshot.ofJsonLine? = some snapshots := by
  induction snapshots with
  | nil => rfl
  | cons snapshot rest induction =>
      rw [List.map_cons, List.mapM_cons, Snapshot.ofJsonLine?_jsonLine, induction]
      rfl

private theorem read_jsonLine_at (snapshots : List Snapshot) (index : Nat) :
    ((snapshots.map Snapshot.jsonLine)[index]?).bind Json.read =
        (snapshots[index]?).map Snapshot.toValue ∧
      ((snapshots.map Snapshot.jsonLine)[index]?).bind Snapshot.ofJsonLine? =
        snapshots[index]? := by
  rw [List.getElem?_map]
  cases snapshots[index]? with
  | none => exact ⟨rfl, rfl⟩
  | some snapshot => exact ⟨snapshot.read_jsonLine, snapshot.ofJsonLine?_jsonLine⟩

theorem ofJsonStream?_allBytes (snapshots : List Snapshot) :
    ofJsonStream? (allBytes .json snapshots) = some snapshots := by
  rw [ofJsonStream?, allBytes_json, Bytes.toChars?_ofChars]
  simp only [Option.bind_eq_bind, Option.bind_some, mapM_ofJsonLine?,
    Text.endedLines?_ended (newline_not_mem_jsonLines snapshots)]

/-- Without limits, snapshots in JSON become one line each: as many newlines as
snapshots, each at the end of a line, and the line at an index is read as the value of
the snapshot at that index and so as that snapshot. One reader gets all of them back
from the bytes alone, so different lists are never written alike. -/
theorem json_reports_lossless :
    (∀ snapshots : List Snapshot,
      (writeAll .json (Sink.empty none none) snapshots).2 = none ∧
      ofJsonStream? (writeAll .json (Sink.empty none none) snapshots).1.held =
        some snapshots ∧
      ∃ text lines,
        Bytes.toChars? (writeAll .json (Sink.empty none none) snapshots).1.held = some text ∧
        text = Text.ended lines ∧
        text.count '\n' = snapshots.length ∧
        lines.length = snapshots.length ∧
        (∀ line ∈ lines, '\n' ∉ line) ∧
        ∀ index : Nat,
          (lines[index]?).bind Json.read = (snapshots[index]?).map Snapshot.toValue ∧
            (lines[index]?).bind Snapshot.ofJsonLine? = snapshots[index]?) ∧
    Function.Injective fun snapshots =>
      (writeAll .json (Sink.empty none none) snapshots).1.held := by
  constructor
  · intro snapshots
    rcases writeAll_unlimited .json snapshots with ⟨held, complete⟩
    have free := newline_not_mem_jsonLines snapshots
    have length : (snapshots.map Snapshot.jsonLine).length = snapshots.length :=
      List.length_map _
    refine ⟨complete, ?_, Text.ended (snapshots.map Snapshot.jsonLine),
      snapshots.map Snapshot.jsonLine, ?_, rfl, ?_, length, free, ?_⟩
    · rw [held, ofJsonStream?_allBytes]
    · rw [held, allBytes_json, Bytes.toChars?_ofChars]
    · rw [Text.count_ended free, length]
    · exact read_jsonLine_at snapshots
  · intro left right equal
    simp only [(writeAll_unlimited .json _).1] at equal
    have same := congrArg ofJsonStream? equal
    rw [ofJsonStream?_allBytes, ofJsonStream?_allBytes] at same
    exact Option.some.inj same

end Report

end MemoryProbe
