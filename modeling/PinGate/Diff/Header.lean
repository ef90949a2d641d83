-- The lines of a diff that are not part of a hunk's body: what a hunk's header says, and the
-- paths that the other headers name.
import PinGate.Diff.Basic
import PinGate.Text.Blank
import PinGate.Text.Integer

namespace PinGate.Diff

open Text

/-! ## The header of a hunk -/

/-- A start, and a count if one follows behind a comma. -/
def readRange? (s : Text) : Option ((Text × Option Text) × Text) := do
  let (start, s) ← run? isDecimalDigit s
  match (dropPrefix? [','] s).bind (run? isDecimalDigit) with
  | some (count, r) => return ((start, some count), r)
  | none => return ((start, none), s)

/-- The digits of a hunk's header. What follows the second pair of signs is free. -/
structure SpanDigits where
  oldStart : Text
  oldCount : Option Text
  newStart : Text
  newCount : Option Text
  deriving Repr, DecidableEq

/-- The digits of the header that starts a line. -/
def SpanDigits.read? (line : Text) : Option SpanDigits := do
  let s ← dropPrefix? "@@ -".toList line
  let ((oldStart, oldCount), s) ← readRange? s
  let s ← dropPrefix? " +".toList s
  let ((newStart, newCount), s) ← readRange? s
  let _ ← dropPrefix? " @@".toList s
  return ⟨oldStart, oldCount, newStart, newCount⟩

/-- The number that digits write; a count that is left out is one. -/
def numberOrOne : Option Text → Except TooLong Nat
  | some digits => ofDigits digits
  | none => .ok 1

/-- The numbers of a header. Of two that are too long the first is told. -/
def Span.ofDigits (d : SpanDigits) : Except TooLong Span := do
  let oldStart ← Text.ofDigits d.oldStart
  let oldCount ← numberOrOne d.oldCount
  let newStart ← Text.ofDigits d.newStart
  let newCount ← numberOrOne d.newCount
  return ⟨oldStart, oldCount, newStart, newCount⟩

/-! ## The paths of other headers -/

/-- The path at the end of a line that starts a file. -/
def pathOfStart (line : Text) : Text := (afterLast? " b/".toList line).getD []

/-- The path behind some words, or the whole line when a blank behind them is missing. -/
def pathBehind (words line : Text) : Text := (afterLast? words line).getD line

/-- The path of a header of four characters and a path, up to a tab, without the letter of the
side. -/
def pathOfTarget (line : Text) : Text :=
  let target := trim ((line.drop 4).takeWhile (· != '\t'))
  if target == devNull then devNull
  else if startsWith "a/".toList target || startsWith "b/".toList target then target.drop 2
  else target

end PinGate.Diff
