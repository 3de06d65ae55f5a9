import MemoryProbe.ByteCount.Size
import MemoryProbe.Snapshot.Basic

namespace MemoryProbe

/-! ## Snapshots for people

One quantity a line. Texts are kept in the pieces in which they are written out;
the last line is closed by whoever writes the report. -/

def GpuInfo.textPieces (gpu : GpuInfo) : List String :=
  ["\n",
    "gpu ", gpu.id, " (", gpu.library.name, "):\n",
    "  recommended max: ", gpu.total.sizeText, "\n",
    "  free:            ", gpu.free.sizeText, "\n",
    "  minimum:         ", gpu.minimum.sizeText]

namespace Snapshot

def textPieces (snapshot : Snapshot) : List String :=
  ["system total: ", snapshot.system.total.sizeText, "\n",
    "system free:  ", snapshot.system.free.sizeText] ++
  match snapshot.gpu with
  | none => ["\ngpu: none"]
  | some gpu => gpu.textPieces

def text (snapshot : Snapshot) : String :=
  String.join snapshot.textPieces

end Snapshot

end MemoryProbe
