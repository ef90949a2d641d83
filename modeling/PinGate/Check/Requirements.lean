-- Lines of a requirements file. A line that starts with a blank holds no requirement, so the
-- context lines of a diff are passed over, and the marker of an added line counts as part of the
-- name. A requirement may have its version on a later line.
import PinGate.Finding
import PinGate.Text.Blank
import PinGate.Text.Search

namespace PinGate.Check

open Text

/-- A name and what is required of its version. -/
structure Requirement where
  name : Text
  constraint : Option Text
  deriving Repr, DecidableEq

namespace Requirement

/-- A character of a comparison. -/
def isComparison (c : Char) : Bool := c == '<' || c == '>' || c == '=' || c == '~'

/-- A character of a name. -/
def isNameChar (c : Char) : Bool := !isComparison c && !isBlank c

/-- A character of a version behind its first digit. -/
def isVersionChar (c : Char) : Bool := c != ';' && !isBlank c

/-- The operator in front of a version: at most two comparison characters, a caret, or none. -/
def operatorLength (s : Text) : Nat :=
  match s with
  | '^' :: _ => 1
  | _ => ((s.takeWhile isComparison).take 2).length

/-- An operator, blanks, and a version that starts with a digit. -/
def readConstraint? (s : Text) : Option (Text × Text) :=
  let n := operatorLength s
  let body := s.drop n
  let blanks := body.takeWhile isBlank
  match skipBlanks body with
  | d :: r =>
    if d.isDigit then
      some (s.take n ++ blanks ++ d :: r.takeWhile isVersionChar, r.dropWhile isVersionChar)
    else none
  | [] => none

/-- A name, blanks, and perhaps a constraint. Behind the requirement the next line is looked
for; it is at hand already when the blanks end with a line feed and no constraint follows. -/
def read? (s : Text) : Option (Requirement × Text) := do
  let (name, s) ← run? isNameChar s
  let t := skipBlanks s
  match readConstraint? t with
  | some (constraint, r) => return (⟨name, some constraint⟩, nextLine r)
  | none =>
    let atLineStart := (s.takeWhile isBlank).getLast? == some '\n'
    return (⟨name, none⟩, if atLineStart then t else nextLine t)

theorem length_of_readConstraint? {s c r : Text} (h : readConstraint? s = some (c, r)) :
    r.length < s.length := by
  simp only [readConstraint?] at h
  split at h
  · next d t ht =>
    split at h
    · simp only [Option.some.injEq, Prod.mk.injEq] at h
      have h₁ := length_skipBlanks_le (s.drop (operatorLength s))
      have h₂ := length_dropWhile_le isVersionChar t
      rw [ht, List.length_cons, List.length_drop] at h₁
      rw [h.2] at h₂
      omega
    · simp at h
  · simp at h

theorem shorter {s : Text} {q : Requirement} {r : Text} (h : read? s = some (q, r)) :
    r.length < s.length := by
  simp only [read?, Option.bind_eq_bind, Option.bind_eq_some_iff, Prod.exists,
    Option.pure_def] at h
  obtain ⟨name, t, ht, h⟩ := h
  have h₀ := length_of_run? ht
  have h₁ := length_skipBlanks_le t
  split at h
  · next c u hu =>
    simp only [Option.some.injEq, Prod.mk.injEq] at h
    have h₂ := length_of_readConstraint? hu
    have h₃ := length_nextLine_le u
    rw [h.2] at h₃
    omega
  · simp only [Option.some.injEq, Prod.mk.injEq] at h
    have h₂ := length_nextLine_le (skipBlanks t)
    rw [← h.2]
    split <;> omega

/-- All requirements of a text. -/
def all (s : Text) : List Requirement := findAllLines ⟨read?, shorter⟩ s

/-- Whether more than one version fits. -/
def isRange (q : Requirement) : Bool :=
  match q.constraint with
  | none => true
  | some c => contains ['~', '='] c || contains ['>'] c || contains ['<'] c

end Requirement

/-- The objections to a requirements file. -/
def requirements (content : Text) : List Finding :=
  ((Requirement.all content).filter Requirement.isRange).map fun q =>
    .requirementRange q.name q.constraint

end PinGate.Check
