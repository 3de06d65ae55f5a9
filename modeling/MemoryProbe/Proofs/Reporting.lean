import MemoryProbe.Proofs.Lines
import MemoryProbe.Report

namespace MemoryProbe

/-! ## Writing in pieces

A sink takes a chunk for which it has room and cuts any other. Either way the chunks
of a text leave the sink as the whole text would, so how a text is cut into chunks
does not matter. -/

namespace Sink

variable (sink : Sink)

def hold (written : Bytes) : Sink :=
  { sink with held := sink.held ++ written }

def Takes (chunk : Bytes) : Prop :=
  ∀ room, sink.room = some room → chunk.length ≤ room

theorem takes_or_room_lt (chunk : Bytes) :
    sink.Takes chunk ∨ ∃ room, sink.room = some room ∧ room < chunk.length := by
  unfold Takes
  cases sink.room with
  | none => simp
  | some room => simpa using Nat.lt_or_ge room chunk.length |>.symm

theorem hold_hold (left right : Bytes) :
    (sink.hold left).hold right = sink.hold (left ++ right) := by
  simp [hold]

theorem room_hold (written : Bytes) :
    (sink.hold written).room = sink.room.map (· - written.length) := by
  cases limited : sink.byteLimit <;> simp [room, hold, limited, Nat.sub_sub]

variable {sink}

theorem write_of_takes {chunk : Bytes} (takes : sink.Takes chunk) :
    sink.write chunk = (sink.hold chunk, none) := by
  unfold write
  cases limited : sink.room with
  | none => rfl
  | some room =>
      have fits := takes room limited
      simp [hold, fits, List.take_of_length_le fits]

theorem write_of_room_lt {chunk : Bytes} {room : Nat} (limited : sink.room = some room)
    (tooLong : room < chunk.length) :
    sink.write chunk = (sink.hold (chunk.take room), some .full) := by
  unfold write
  rw [limited]
  simp [hold, tooLong]

theorem takes_append_iff (left right : Bytes) :
    sink.Takes (left ++ right) ↔ sink.Takes left ∧ (sink.hold left).Takes right := by
  unfold Takes
  rw [room_hold]
  cases sink.room with
  | none => simp
  | some room =>
      simp only [Option.some.injEq, forall_eq', Option.map_some, List.length_append]
      omega

/-- A text whose first part is taken goes on with the rest. -/
theorem write_append_of_takes {left : Bytes} (takes : sink.Takes left) (right : Bytes) :
    sink.write (left ++ right) = (sink.hold left).write right := by
  rcases (sink.hold left).takes_or_room_lt right with
    takesRight | ⟨roomLeft, limitedLeft, tooLong⟩
  · have takesBoth := (takes_append_iff left right).mpr ⟨takes, takesRight⟩
    rw [write_of_takes takesBoth, write_of_takes takesRight, hold_hold]
  · have limitedRight := limitedLeft
    rw [room_hold, Option.map_eq_some_iff] at limitedRight
    rcases limitedRight with ⟨room, limited, rfl⟩
    have fits := takes room limited
    have tooLongBoth : room < (left ++ right).length := by
      rw [List.length_append]
      omega
    rw [write_of_room_lt limited tooLongBoth, write_of_room_lt limitedLeft tooLong,
      hold_hold, List.take_append, List.take_of_length_le fits]

/-- A text whose first part is cut ends with it. -/
theorem write_append_of_room_lt {left : Bytes} {room : Nat}
    (limited : sink.room = some room) (tooLong : room < left.length) (right : Bytes) :
    sink.write (left ++ right) = sink.write left := by
  have tooLongBoth : room < (left ++ right).length := by
    rw [List.length_append]
    omega
  rw [write_of_room_lt limited tooLong, write_of_room_lt limited tooLongBoth,
    List.take_append_of_le_length (Nat.le_of_lt tooLong)]

theorem writeAll_eq_write_flatten (sink : Sink) (chunks : List Bytes) :
    sink.writeAll chunks = sink.write chunks.flatten := by
  induction chunks generalizing sink with
  | nil =>
      have takes : sink.Takes [] := fun _ _ => Nat.zero_le _
      rw [writeAll, List.flatten_nil, write_of_takes takes]
      simp [hold]
  | cons chunk rest induction =>
      rw [writeAll, List.flatten_cons]
      rcases sink.takes_or_room_lt chunk with takes | ⟨room, limited, tooLong⟩
      · rw [write_append_of_takes takes, write_of_takes takes]
        exact induction (sink.hold chunk)
      · rw [write_append_of_room_lt limited tooLong, write_of_room_lt limited tooLong]

end Sink

/-! A flush counts, as long as the sink still flushes. -/

namespace Sink

def flushed (sink : Sink) (count : Nat) : Sink :=
  { sink with flushes := sink.flushes + count }

def Flushes (sink : Sink) (count : Nat) : Prop :=
  ∀ limit, sink.flushLimit = some limit → sink.flushes + count ≤ limit

variable {sink : Sink}

theorem hold_flushed (written later : Bytes) (count countLater : Nat) :
    (((sink.hold written).flushed count).hold later).flushed countLater =
      (sink.hold (written ++ later)).flushed (count + countLater) := by
  simp [hold, flushed, Nat.add_assoc]

theorem flush_of_flushes (flushes : sink.Flushes 1) :
    sink.flush = (sink.flushed 1, none) := by
  unfold flush
  cases limited : sink.flushLimit with
  | none => simp [flushed, limited]
  | some limit =>
      have below : sink.flushes < limit := flushes limit limited
      simp [flushed, limited, below]

theorem flush_of_limit_le {limit : Nat} (limited : sink.flushLimit = some limit)
    (exhausted : limit ≤ sink.flushes) : sink.flush = (sink, some .flushFailed) := by
  unfold flush
  rw [limited]
  simp [Nat.not_lt.mpr exhausted]

/-- A sink without limits takes and flushes everything. -/
theorem takes_unlimited (written : Bytes) : (empty none none).Takes written := by
  intro room limited
  cases limited

theorem flushes_unlimited (count : Nat) : (empty none none).Flushes count := by
  intro limit limited
  cases limited

end Sink

/-! ## One report -/

namespace Report

/-- The stages of a report with the bytes of each in one piece. -/
def joined (stages : List (Stage × List Bytes)) : List (Stage × List Bytes) :=
  stages.map fun (stage, chunks) => (stage, [chunks.flatten])

theorem writeStages_joined (sink : Sink) (stages : List (Stage × List Bytes)) :
    writeStages sink (joined stages) = writeStages sink stages := by
  induction stages generalizing sink with
  | nil => rfl
  | cons head rest induction =>
      rcases head with ⟨stage, chunks⟩
      rw [joined, List.map_cons, ← joined]
      simp only [writeStages, Sink.writeAll_eq_write_flatten, List.flatten_cons,
        List.flatten_nil, List.append_nil, induction]

theorem flatten_chunks (pieces : List String) :
    (chunks pieces).flatten = Bytes.ofChars (Text.joined pieces) := by
  induction pieces with
  | nil => rfl
  | cons piece rest induction =>
      rw [chunks, List.map_cons, ← chunks, List.flatten_cons, induction, Text.joined_cons,
        Bytes.ofChars_append, Bytes.ofString]

theorem bytes_text (snapshot : Snapshot) :
    bytes .text snapshot = (chunks (snapshot.textPieces ++ ["\n"])).flatten := by
  simp [bytes, body]

theorem bytes_json (snapshot : Snapshot) :
    bytes .json snapshot =
      (chunks snapshot.jsonPieces).flatten ++ (chunks ["\n"]).flatten := by
  simp [bytes, body]

/-- The stage in which a report is cut, told by how many of its bytes are missing:
JSON is one stage up to the newline and another for it. -/
def cutStage : Format → Nat → Stage
  | .text, _ => .writeText
  | .json, missing => if missing = 1 then .writeJson else .encodeSnapshot

variable {format : Format} {sink : Sink} {snapshot : Snapshot}

theorem writeStages_of_takes (takes : sink.Takes (bytes format snapshot)) :
    writeStages sink (body format snapshot) =
      (sink.hold (bytes format snapshot), none) := by
  cases format with
  | text =>
      rw [bytes_text] at takes ⊢
      rw [body, writeStages, Sink.writeAll_eq_write_flatten, Sink.write_of_takes takes]
      rfl
  | json =>
      rw [bytes_json] at takes ⊢
      rcases (Sink.takes_append_iff _ _).mp takes with ⟨takesObject, takesNewline⟩
      rw [body, writeStages, Sink.writeAll_eq_write_flatten, Sink.write_of_takes takesObject]
      simp only [writeStages]
      rw [Sink.writeAll_eq_write_flatten, Sink.write_of_takes takesNewline, Sink.hold_hold]

theorem writeStages_of_room_lt {room : Nat} (limited : sink.room = some room)
    (tooLong : room < (bytes format snapshot).length) :
    writeStages sink (body format snapshot) =
      (sink.hold ((bytes format snapshot).take room),
        some ⟨cutStage format ((bytes format snapshot).length - room), .full⟩) := by
  cases format with
  | text =>
      rw [bytes_text] at tooLong ⊢
      rw [body, writeStages, Sink.writeAll_eq_write_flatten,
        Sink.write_of_room_lt limited tooLong]
      rfl
  | json =>
      have newline : (chunks ["\n"]).flatten.length = 1 := rfl
      rw [bytes_json] at tooLong ⊢
      rw [List.length_append, newline] at tooLong ⊢
      rw [body, writeStages, Sink.writeAll_eq_write_flatten]
      rcases sink.takes_or_room_lt (chunks snapshot.jsonPieces).flatten with
        takes | ⟨room, limitedObject, tooLongObject⟩
      · have fits := takes room limited
        have limitedNewline : (sink.hold (chunks snapshot.jsonPieces).flatten).room =
            some (room - (chunks snapshot.jsonPieces).flatten.length) := by
          rw [Sink.room_hold, limited, Option.map_some]
        rw [Sink.write_of_takes takes]
        simp only [writeStages]
        rw [Sink.writeAll_eq_write_flatten,
          Sink.write_of_room_lt limitedNewline (by omega), Sink.hold_hold,
          List.take_append, List.take_of_length_le fits, cutStage, if_pos (by omega)]
      · rw [limited] at limitedObject
        cases limitedObject
        rw [Sink.write_of_room_lt limited tooLongObject,
          List.take_append_of_le_length (Nat.le_of_lt tooLongObject), cutStage,
          if_neg (by omega)]

/-- A report that fits is flushed; one that is cut is not. -/
theorem write_of_flushes (takes : sink.Takes (bytes format snapshot))
    (flushes : sink.Flushes 1) :
    write format sink snapshot =
      ((sink.hold (bytes format snapshot)).flushed 1, none) := by
  have flushesHeld : (sink.hold (bytes format snapshot)).Flushes 1 := flushes
  rw [write, writeStages_of_takes takes]
  simp only [Sink.flush_of_flushes flushesHeld]

theorem write_of_limit_le {limit : Nat} (takes : sink.Takes (bytes format snapshot))
    (limited : sink.flushLimit = some limit) (exhausted : limit ≤ sink.flushes) :
    write format sink snapshot =
      (sink.hold (bytes format snapshot), some ⟨.flush, .flushFailed⟩) := by
  have limitedHeld : (sink.hold (bytes format snapshot)).flushLimit = some limit := limited
  rw [write, writeStages_of_takes takes]
  simp only [Sink.flush_of_limit_le limitedHeld exhausted]

theorem write_of_room_lt {room : Nat} (limited : sink.room = some room)
    (tooLong : room < (bytes format snapshot).length) :
    write format sink snapshot =
      (sink.hold ((bytes format snapshot).take room),
        some ⟨cutStage format ((bytes format snapshot).length - room), .full⟩) := by
  rw [write, writeStages_of_room_lt limited tooLong]

/-! ## Reports in turn -/

def allBytes (format : Format) (snapshots : List Snapshot) : Bytes :=
  snapshots.flatMap (bytes format)

theorem allBytes_cons (snapshot : Snapshot) (rest : List Snapshot) :
    allBytes format (snapshot :: rest) = bytes format snapshot ++ allBytes format rest :=
  List.flatMap_cons

theorem writeAll_of_flushes {snapshots : List Snapshot}
    (takes : sink.Takes (allBytes format snapshots))
    (flushes : sink.Flushes snapshots.length) :
    writeAll format sink snapshots =
      ((sink.hold (allBytes format snapshots)).flushed snapshots.length, none) := by
  induction snapshots generalizing sink with
  | nil => simp [writeAll, allBytes, Sink.hold, Sink.flushed]
  | cons snapshot rest induction =>
      rw [allBytes_cons] at takes ⊢
      rcases (Sink.takes_append_iff _ _).mp takes with ⟨takesFirst, takesRest⟩
      have flushesFirst : sink.Flushes 1 := by
        intro limit limited
        have enough := flushes limit limited
        rw [List.length_cons] at enough
        omega
      have takesLater :
          ((sink.hold (bytes format snapshot)).flushed 1).Takes (allBytes format rest) :=
        takesRest
      have flushesLater :
          ((sink.hold (bytes format snapshot)).flushed 1).Flushes rest.length := by
        intro limit limited
        have enough := flushes limit limited
        rw [List.length_cons] at enough
        simp only [Sink.flushed, Sink.hold]
        omega
      rw [writeAll, write_of_flushes takesFirst flushesFirst]
      simp only
      rw [induction takesLater flushesLater, Sink.hold_flushed, List.length_cons,
        Nat.add_comm 1]

theorem writeAll_unlimited (format : Format) (snapshots : List Snapshot) :
    (writeAll format (Sink.empty none none) snapshots).1.held = allBytes format snapshots ∧
      (writeAll format (Sink.empty none none) snapshots).2 = none := by
  rw [writeAll_of_flushes (Sink.takes_unlimited _) (Sink.flushes_unlimited _)]
  exact ⟨List.nil_append _, rfl⟩

theorem writeAll_append (front back : List Snapshot) (sink : Sink) :
    writeAll format sink (front ++ back) =
      match writeAll format sink front with
      | (next, none) => writeAll format next back
      | failed => failed := by
  induction front generalizing sink with
  | nil => rfl
  | cons snapshot rest induction =>
      rw [List.cons_append, writeAll, writeAll]
      rcases write format sink snapshot with ⟨next, _ | failure⟩
      · exact induction next
      · rfl

theorem writeAll_append_of_flushes {front : List Snapshot} (back : List Snapshot)
    (takes : sink.Takes (allBytes format front)) (flushes : sink.Flushes front.length) :
    writeAll format sink (front ++ back) =
      writeAll format ((sink.hold (allBytes format front)).flushed front.length) back := by
  rw [writeAll_append, writeAll_of_flushes takes flushes]

end Report

end MemoryProbe
