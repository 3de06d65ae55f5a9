import MemoryProbe.Text.Cut

namespace MemoryProbe.Version

/-! ## Version texts

The image version, the short commit and a mark for a changed working tree. -/

def shortLength : Nat := 8

def shortCommit (commit : String) : String :=
  match Text.takeBytes shortLength commit.toList with
  | some characters => String.ofList characters
  | none => commit

def commitText (commit : Option String) : String :=
  commit.elim "unknown" shortCommit

def dirtyText (dirty : Bool) : String :=
  if dirty then "-dirty" else ""

def render (image : String) (commit : Option String) (dirty : Bool) : String :=
  image ++ "-" ++ commitText commit ++ dirtyText dirty

/-- The version of a build outside any checkout, with no image version set. -/
def unversioned : String :=
  render "latest" none false

end MemoryProbe.Version
