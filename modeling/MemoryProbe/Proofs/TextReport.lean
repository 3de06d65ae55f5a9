import MemoryProbe.Proofs.Lines
import MemoryProbe.Proofs.Reporting
import MemoryProbe.Proofs.Text.Marks
import MemoryProbe.Proofs.Utf8
import MemoryProbe.Text.Decimal

namespace MemoryProbe

/-! ## Blocks of lines -/

def GpuInfo.textLines (gpu : GpuInfo) : List (List Char) :=
  [["gpu ", gpu.id, " (", gpu.library.name, "):"],
    ["  recommended max: ", gpu.total.sizeText],
    ["  free:            ", gpu.free.sizeText],
    ["  minimum:         ", gpu.minimum.sizeText]].map Text.joined

/-- A snapshot is a block of whole lines, three without a device and six with one. -/
def Snapshot.textLines (snapshot : Snapshot) : List (List Char) :=
  [["system total: ", snapshot.system.total.sizeText],
    ["system free:  ", snapshot.system.free.sizeText]].map Text.joined ++
  snapshot.gpu.elim ["gpu: none".toList] GpuInfo.textLines

private theorem Snapshot.length_textLines (snapshot : Snapshot) :
    snapshot.textLines.length = if snapshot.gpu.isSome then 6 else 3 := by
  unfold textLines
  cases snapshot.gpu <;> rfl

/-- The pieces of a snapshot put their newlines at the start or at the end of a line; with the
one that closes the report, every line has its own. -/
theorem Snapshot.joined_textPieces (snapshot : Snapshot) :
    Text.joined (snapshot.textPieces ++ ["\n"]) = Text.ended snapshot.textLines := by
  unfold textPieces textLines
  cases snapshot.gpu with
  | none => simp [Text.ended]
  | some gpu => simp [Text.ended, GpuInfo.textPieces, GpuInfo.textLines]

private theorem Size.newline_not_mem_text (size : Size) : '\n' ∉ size.text.toList := by
  have digits (number : Nat) : '\n' ∉ Nat.toDigits 10 number :=
    Text.Decimal.not_mem_toDigits (by decide) number
  cases size with
  | bytes count => simp [text, digits]
  | scaled tenths unit =>
      have name : '\n' ∉ unit.name.toList := by cases unit <;> decide
      simp [text, digits, name]

private theorem ByteCount.newline_not_mem_sizeText (count : ByteCount) :
    '\n' ∉ count.sizeText.toList :=
  (Size.ofBytes count).newline_not_mem_text

/-- Only the id of a device could bring a newline into a line. -/
def Snapshot.NamedInLine (snapshot : Snapshot) : Prop :=
  ∀ gpu ∈ snapshot.gpu, '\n' ∉ gpu.id.toList

theorem GpuInfo.newline_not_mem_textLines {gpu : GpuInfo} (inLine : '\n' ∉ gpu.id.toList) :
    ∀ line ∈ gpu.textLines, '\n' ∉ line := by
  have library : '\n' ∉ gpu.library.name.toList := by cases gpu.library <;> decide
  simp [textLines, inLine, library, ByteCount.newline_not_mem_sizeText]

theorem Snapshot.NamedInLine.newline_not_mem_textLines {snapshot : Snapshot}
    (inLine : snapshot.NamedInLine) : ∀ line ∈ snapshot.textLines, '\n' ∉ line := by
  unfold textLines
  cases device : snapshot.gpu with
  | none => simp [ByteCount.newline_not_mem_sizeText]
  | some gpu =>
      have others := GpuInfo.newline_not_mem_textLines (inLine gpu device)
      simpa [ByteCount.newline_not_mem_sizeText] using others

/-! ## What a block tells

The texts of the figures, and which device there is. -/

structure GpuInfo.Reading where
  id : String
  library : Library
  total : String
  free : String
  minimum : String
  deriving DecidableEq, Repr

structure Snapshot.Reading where
  total : String
  free : String
  gpu : Option GpuInfo.Reading
  deriving DecidableEq, Repr

def GpuInfo.reading (gpu : GpuInfo) : GpuInfo.Reading :=
  ⟨gpu.id, gpu.library, gpu.total.sizeText, gpu.free.sizeText, gpu.minimum.sizeText⟩

def Snapshot.reading (snapshot : Snapshot) : Snapshot.Reading :=
  ⟨snapshot.system.total.sizeText, snapshot.system.free.sizeText,
    snapshot.gpu.map GpuInfo.reading⟩

namespace Report

/-- A figure follows its label to the end of the line. -/
def figure? (label : String) (line : List Char) : Option String :=
  (Text.afterMark? label line).map String.ofList

def libraryMark (library : Library) : String :=
  " (" ++ library.name ++ "):"

/-- The id of a device is whatever stands between the first word of the line and the
name of a library at its end. -/
def device? (line : List Char) : Option (String × Library) :=
  (Text.afterMark? "gpu " line).bind fun named =>
    [Library.nvml, .metal].findSome? fun library =>
      (Text.beforeMark? (libraryMark library) named).map fun id => (String.ofList id, library)

/-- The third line of a block says whether there are more. -/
def readings? : List (List Char) → Option (List Snapshot.Reading)
  | [] => some []
  | total :: free :: device :: rest => do
      let total ← figure? "system total: " total
      let free ← figure? "system free:  " free
      if device = "gpu: none".toList then
        return ⟨total, free, none⟩ :: (← readings? rest)
      else
        let (id, library) ← device? device
        match rest with
        | most :: left :: least :: rest =>
            let most ← figure? "  recommended max: " most
            let left ← figure? "  free:            " left
            let least ← figure? "  minimum:         " least
            return ⟨total, free, some ⟨id, library, most, left, least⟩⟩ :: (← readings? rest)
        | _ => none
  | _ => none

private theorem figure?_joined (label : String) (size : ByteCount) :
    figure? label (Text.joined [label, size.sizeText]) = some size.sizeText := by
  simp [figure?]

private theorem device?_joined (id : String) (library : Library) :
    device? (Text.joined ["gpu ", id, " (", library.name, "):"]) = some (id, library) := by
  have line : Text.joined ["gpu ", id, " (", library.name, "):"] =
      "gpu ".toList ++ (id.toList ++ (libraryMark library).toList) := by
    simp [libraryMark]
  rw [device?, line, Text.afterMark?_append, Option.bind_some]
  cases library with
  | nvml => simp
  | metal =>
      have other : Text.beforeMark? (libraryMark .nvml)
          (id.toList ++ (libraryMark .metal).toList) = none :=
        Text.beforeMark?_eq_none (by decide) (by decide) id.toList
      simp [other]

/-- A block is taken off the front of the lines whatever blocks follow it. -/
theorem readings?_textLines_append (snapshot : Snapshot) (rest : List (List Char)) :
    readings? (snapshot.textLines ++ rest) =
      (readings? rest).map (snapshot.reading :: ·) := by
  unfold Snapshot.textLines Snapshot.reading
  cases snapshot.gpu with
  | none =>
      change readings? (_ :: _ :: "gpu: none".toList :: rest) = _
      simp only [readings?, figure?_joined, Option.bind_eq_bind, Option.bind_some, if_true]
      cases readings? rest <;> rfl
  | some gpu =>
      have named : Text.joined ["gpu ", gpu.id, " (", gpu.library.name, "):"] ≠
          "gpu: none".toList := by simp
      change readings? (_ :: _ :: Text.joined ["gpu ", gpu.id, " (", gpu.library.name, "):"] ::
        _ :: _ :: _ :: rest) = _
      simp only [readings?, figure?_joined, device?_joined, if_neg named, Option.bind_eq_bind,
        Option.bind_some]
      cases readings? rest <;> rfl

private theorem readings?_flatMap_textLines (snapshots : List Snapshot) :
    readings? (snapshots.flatMap Snapshot.textLines) =
      some (snapshots.map Snapshot.reading) := by
  induction snapshots with
  | nil => rfl
  | cons snapshot rest induction =>
      rw [List.flatMap_cons, readings?_textLines_append, induction, Option.map_some,
        List.map_cons]

/-! ## Whole streams -/

theorem bytes_text_eq_block (snapshot : Snapshot) :
    bytes .text snapshot = Bytes.ofChars (Text.ended snapshot.textLines) := by
  rw [bytes_text, flatten_chunks, snapshot.joined_textPieces]

theorem allBytes_text (snapshots : List Snapshot) :
    allBytes .text snapshots =
      Bytes.ofChars (Text.ended (snapshots.flatMap Snapshot.textLines)) := by
  induction snapshots with
  | nil => rfl
  | cons snapshot rest induction =>
      rw [allBytes_cons, bytes_text_eq_block, induction, ← Bytes.ofChars_append,
        List.flatMap_cons, Text.ended_append]

def ofTextStream? (stream : Bytes) : Option (List Snapshot.Reading) := do
  let text ← stream.toChars?
  let lines ← Text.endedLines? text
  readings? lines

variable {snapshots : List Snapshot}
  (inLine : ∀ snapshot ∈ snapshots, snapshot.NamedInLine)

include inLine

private theorem newline_not_mem_blocks :
    ∀ line ∈ snapshots.flatMap Snapshot.textLines, '\n' ∉ line := by
  intro line member
  rcases List.mem_flatMap.mp member with ⟨snapshot, present, lineOf⟩
  exact (inLine snapshot present).newline_not_mem_textLines line lineOf

theorem ofTextStream?_allBytes :
    ofTextStream? (allBytes .text snapshots) = some (snapshots.map Snapshot.reading) := by
  rw [ofTextStream?, allBytes_text, Bytes.toChars?_ofChars]
  simp only [Option.bind_eq_bind, Option.bind_some, readings?_flatMap_textLines,
    Text.endedLines?_ended (newline_not_mem_blocks inLine)]

/-- Without limits, snapshots in text whose devices are named in one line become one block of
lines each, in order and with nothing between them: three lines without a device and six
with one. One reader gets from the bytes alone what every block tells. -/
theorem text_reports_readable :
    (writeAll .text (Sink.empty none none) snapshots).2 = none ∧
      (writeAll .text (Sink.empty none none) snapshots).1.held =
        Bytes.ofChars (snapshots.flatMap fun snapshot => Text.ended snapshot.textLines) ∧
      (∀ snapshot ∈ snapshots,
        snapshot.textLines.length = (if snapshot.gpu.isSome then 6 else 3) ∧
          ∀ line ∈ snapshot.textLines, '\n' ∉ line) ∧
      ofTextStream? (writeAll .text (Sink.empty none none) snapshots).1.held =
        some (snapshots.map Snapshot.reading) := by
  rcases writeAll_unlimited .text snapshots with ⟨held, complete⟩
  refine ⟨complete, ?_, fun snapshot present => ?_, ?_⟩
  · rw [held, allBytes_text, Text.ended_flatMap]
  · exact ⟨snapshot.length_textLines, (inLine snapshot present).newline_not_mem_textLines⟩
  · rw [held, ofTextStream?_allBytes inLine]

omit inLine

/-- An id that reads like the end of its line, and a snapshot without a device before it. -/
def misleadingId : Snapshot :=
  ⟨⟨2048, 1024⟩, some ⟨.metal, "none (nvml):", 4096, 1000, 512⟩⟩

theorem text_reports_readable_misleading_id :
    (∀ snapshot ∈ [⟨MemoryInfo.unknown, none⟩, misleadingId], snapshot.NamedInLine) ∧
      ofTextStream? (writeAll .text (Sink.empty none none)
          [⟨MemoryInfo.unknown, none⟩, misleadingId]).1.held =
        some [⟨"0 B", "0 B", none⟩, ⟨"2.0 KiB", "1.0 KiB",
          some ⟨"none (nvml):", .metal, "4.0 KiB", "1000 B", "512 B"⟩⟩] := by
  have inLine : ∀ snapshot ∈ [⟨MemoryInfo.unknown, none⟩, misleadingId],
      snapshot.NamedInLine := by
    simp [Snapshot.NamedInLine, misleadingId]
  have readings : [⟨MemoryInfo.unknown, none⟩, misleadingId].map Snapshot.reading =
      [⟨"0 B", "0 B", none⟩, ⟨"2.0 KiB", "1.0 KiB",
        some ⟨"none (nvml):", .metal, "4.0 KiB", "1000 B", "512 B"⟩⟩] := by
    decide +kernel
  refine ⟨inLine, ?_⟩
  rw [← readings]
  exact (text_reports_readable inLine).2.2.2

end Report

end MemoryProbe
