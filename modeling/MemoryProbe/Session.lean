import MemoryProbe.Query
import MemoryProbe.Snapshot.Text

namespace MemoryProbe

/-! ## Scripted replies -/

/-- A source method answers from a list of replies: each call takes the next one, and
the last one stays. -/
structure Replies (Reply : Type) where
  current : Reply
  later : List Reply

namespace Replies

variable {Reply : Type}

def fixed (reply : Reply) : Replies Reply :=
  ⟨reply, []⟩

def advance : Replies Reply → Replies Reply
  | ⟨current, []⟩ => ⟨current, []⟩
  | ⟨_, next :: later⟩ => ⟨next, later⟩

end Replies

namespace Session

inductive Method where
  | library
  | recommendedMaxVram
  | currentAllocatedVram
  | vramUsage
  | physicalMemory
  | freeMemory
  deriving DecidableEq, Repr

def Method.name : Method → String
  | .library => "library"
  | .recommendedMaxVram => "recommended_max_vram"
  | .currentAllocatedVram => "current_allocated_vram"
  | .vramUsage => "vram_usage"
  | .physicalMemory => "physical_memory"
  | .freeMemory => "free_memory"

structure Script where
  library : Replies (Option Library)
  recommended : Replies (Except QueryError ByteCount)
  allocated : Replies (Except QueryError ByteCount)
  usage : Replies (Except QueryError VramUsage)
  physical : Replies (Except QueryError ByteCount)
  free : Replies (Except QueryError ByteCount)

namespace Script

def askLibrary : Reading Script Method (Option Library) := fun script =>
  ⟨script.library.current, { script with library := script.library.advance },
    [.call .library]⟩

def askRecommended : Reading Script Method (Except QueryError ByteCount) := fun script =>
  ⟨script.recommended.current, { script with recommended := script.recommended.advance },
    [.call .recommendedMaxVram]⟩

def askAllocated : Reading Script Method (Except QueryError ByteCount) := fun script =>
  ⟨script.allocated.current, { script with allocated := script.allocated.advance },
    [.call .currentAllocatedVram]⟩

def askUsage : Reading Script Method (Except QueryError VramUsage) := fun script =>
  ⟨script.usage.current, { script with usage := script.usage.advance },
    [.call .vramUsage]⟩

def askPhysical : Reading Script Method (Except QueryError ByteCount) := fun script =>
  ⟨script.physical.current, { script with physical := script.physical.advance },
    [.call .physicalMemory]⟩

def askFree : Reading Script Method (Except QueryError ByteCount) := fun script =>
  ⟨script.free.current, { script with free := script.free.advance },
    [.call .freeMemory]⟩

end Script

/-- A GPU source reads its two figures separately, or has a combined read of its
own, or is missing. -/
inductive GpuKind where
  | split
  | single
  | unsupported
  deriving DecidableEq, Repr

def GpuKind.source : GpuKind → GpuSource Script Method
  | .split => .ofSeparate Script.askLibrary Script.askRecommended Script.askAllocated
  | .single =>
      { library := Script.askLibrary
        recommended := Script.askRecommended
        allocated := Script.askAllocated
        usage := Script.askUsage }
  | .unsupported => .unsupported

def query (kind : GpuKind) : MemoryQuery Script Method where
  gpu := kind.source
  system := ⟨Script.askPhysical, Script.askFree⟩

/-! ## Steps -/

inductive Change where
  | library (replies : Replies (Option Library))
  | recommended (replies : Replies (Except QueryError ByteCount))
  | allocated (replies : Replies (Except QueryError ByteCount))
  | usage (replies : Replies (Except QueryError VramUsage))
  | physical (replies : Replies (Except QueryError ByteCount))
  | free (replies : Replies (Except QueryError ByteCount))

def Change.apply (script : Script) : Change → Script
  | .library replies => { script with library := replies }
  | .recommended replies => { script with recommended := replies }
  | .allocated replies => { script with allocated := replies }
  | .usage replies => { script with usage := replies }
  | .physical replies => { script with physical := replies }
  | .free replies => { script with free := replies }

inductive Step where
  | library
  | recommendedMaxVram
  | currentAllocatedVram
  | physicalMemory
  | freeMemory
  | vramUsage
  | capture
  | text
  | fits (request : ByteCount)
  | same
  | set (changes : List Change)

inductive Answer where
  | library (found : Option Library)
  | figure (count : ByteCount)
  | usage (found : Option VramUsage)
  | snapshot (taken : Snapshot)
  | text (shown : Option String)
  | fits (admitted : Option Bool)
  | same (equal : Bool)
  | done
  deriving DecidableEq, Repr

end Session

/-- A session keeps the script as far as it has been consumed and the last two
snapshots taken. -/
structure Session where
  script : Session.Script
  last : Option Snapshot
  previous : Option Snapshot

namespace Session

def start (script : Script) : Session :=
  ⟨script, none, none⟩

/-- A step that reads answers from the script and leaves the snapshots alone. -/
def read {Value : Type} (session : Session) (answer : Value → Answer)
    (reading : Reading Script Method Value) : Outcome Session (Entry Method) Answer :=
  let outcome := reading session.script
  ⟨answer outcome.value, { session with script := outcome.state }, outcome.record⟩

def take (session : Session) (reading : Reading Script Method Snapshot) :
    Outcome Session (Entry Method) Answer :=
  let outcome := reading session.script
  ⟨.snapshot outcome.value, ⟨outcome.state, some outcome.value, session.last⟩,
    outcome.record⟩

def sameAsPrevious (session : Session) : Bool :=
  match session.last, session.previous with
  | some last, some previous => last = previous
  | _, _ => false

def perform (kind : GpuKind) (session : Session) :
    Step → Outcome Session (Entry Method) Answer
  | .library => session.read .library (query kind).library
  | .recommendedMaxVram => session.read .figure (query kind).recommendedMaxVram
  | .currentAllocatedVram => session.read .figure (query kind).currentAllocatedVram
  | .physicalMemory => session.read .figure (query kind).physicalMemory
  | .freeMemory => session.read .figure (query kind).freeMemory
  | .vramUsage => session.read .usage (query kind).vramUsage
  | .capture => session.take (query kind).capture
  | .text => ⟨.text (session.last.map Snapshot.text), session, []⟩
  | .fits request => ⟨.fits (session.last.map (·.fits request)), session, []⟩
  | .same => ⟨.same session.sameAsPrevious, session, []⟩
  | .set changes =>
      ⟨.done, { session with script := changes.foldl Change.apply session.script }, []⟩

/-- The outcomes of a list of steps, in order. -/
def run (kind : GpuKind) (session : Session) :
    List Step → List (Outcome Session (Entry Method) Answer)
  | [] => []
  | step :: rest =>
      let outcome := perform kind session step
      outcome :: run kind outcome.state rest

end Session

end MemoryProbe
