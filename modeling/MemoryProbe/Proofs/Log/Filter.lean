import MemoryProbe.Log.Filter

namespace MemoryProbe.Log.Filter

def Breaks (value : Option Bytes) : Prop :=
  ∃ piece ∈ pieces ((value.bind Bytes.toString?).getD ""),
    Directive.parse piece = .error .broken

/-- Directives that are refused are left out, and the reading goes on. It ends where one
of them breaks off. -/
theorem filter_readPieces_eq_none (pieces : List String) (directives : List Directive)
    (complaints : List String) :
    (readPieces directives complaints pieces).filter = none ↔
      ∃ piece ∈ pieces, Directive.parse piece = .error .broken := by
  induction pieces generalizing directives complaints with
  | nil => simp [readPieces]
  | cons piece rest readRest =>
      unfold readPieces
      simp only [List.mem_cons, exists_eq_or_imp]
      cases Directive.parse piece with
      | ok directive => simp [readRest]
      | error fault =>
          cases fault with
          | refused error => simp [readRest]
          | broken => simp

theorem filter_ofVariable_eq_none (value : Option Bytes) :
    (ofVariable value).filter = none ↔ Breaks value :=
  filter_readPieces_eq_none _ _ _

/-- A variable that is not set does not break off. -/
theorem ofVariable_none : ofVariable none = ⟨some standard, []⟩ := rfl

theorem not_breaks_none : ¬Breaks none := by
  rw [← filter_ofVariable_eq_none, ofVariable_none]
  exact Option.some_ne_none standard

end MemoryProbe.Log.Filter
