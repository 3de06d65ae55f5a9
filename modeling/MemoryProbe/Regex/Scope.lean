import MemoryProbe.Text.Blank

namespace MemoryProbe.Regex

/-- How a part of a pattern is read: a verbose part may hold blanks and comments that
mean nothing, and a part without Unicode matches bytes. -/
structure Scope where
  verbose : Bool
  unicode : Bool
  deriving DecidableEq, Repr

namespace Scope

def outermost : Scope := ⟨false, true⟩

/-- A comment lasts to the end of its line. -/
def skipFrom (inComment : Bool) : List Char → List Char
  | [] => []
  | character :: rest =>
      if inComment then skipFrom (character != '\n') rest
      else if Text.isBlank character then skipFrom false rest
      else if character = '#' then skipFrom true rest
      else character :: rest

def skip (scope : Scope) (text : List Char) : List Char :=
  if scope.verbose then skipFrom false text else text

private theorem length_skipFrom_le (inComment : Bool) (text : List Char) :
    (skipFrom inComment text).length ≤ text.length := by
  induction text generalizing inComment with
  | nil => exact Nat.le_refl _
  | cons character rest induction =>
      unfold skipFrom
      split
      · exact Nat.le_succ_of_le (induction _)
      · split
        · exact Nat.le_succ_of_le (induction _)
        · split
          · exact Nat.le_succ_of_le (induction _)
          · exact Nat.le_refl _

theorem length_skip_le (scope : Scope) (text : List Char) :
    (scope.skip text).length ≤ text.length := by
  unfold skip
  split
  · exact length_skipFrom_le false text
  · exact Nat.le_refl _

/-- A look ahead passes blanks and the sign of one comment, but not what the comment
says. Where nothing else is left, it sees what comes right away. -/
def firstSolid (inComment : Bool) : List Char → Option Char
  | [] => none
  | character :: rest =>
      if Text.isBlank character then firstSolid inComment rest
      else if character = '#' && !inComment then firstSolid true rest
      else some character

def ahead (scope : Scope) (text : List Char) : Option Char :=
  if scope.verbose then (firstSolid false text).or text.head? else text.head?

end Scope

end MemoryProbe.Regex
