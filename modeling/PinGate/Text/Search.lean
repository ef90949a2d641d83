-- Searching a text for everything of one shape. A recogniser looks at the start of a text; the
-- search tries it at each position from the left, steps one character on where it fails, and
-- goes on behind what it recognised where it succeeds, so that findings never overlap.
import PinGate.Text.Basic

namespace PinGate.Text

/-- A test for one shape at the start of a text. What it recognises is not empty, so the rest
that it returns is shorter. -/
structure Recogniser (α : Type) where
  read? : Text → Option (α × Text)
  shorter : ∀ {s : Text} {a : α} {r : Text}, read? s = some (a, r) → r.length < s.length

/-- All findings, from left to right. -/
def findAll {α : Type} (p : Recogniser α) (s : Text) : List α :=
  match _h : p.read? s with
  | some (a, r) => a :: findAll p r
  | none =>
    match s with
    | [] => []
    | _ :: cs => findAll p cs
termination_by s.length
decreasing_by
  · exact p.shorter _h
  · exact Nat.lt_succ_self _

theorem findAll_of_some {α : Type} {p : Recogniser α} {s r : Text} {a : α}
    (h : p.read? s = some (a, r)) : findAll p s = a :: findAll p r := by
  rw [findAll]
  split
  · next a' r' h' =>
    rw [h] at h'
    simp only [Option.some.injEq, Prod.mk.injEq] at h'
    rw [h'.1, h'.2]
  · next h' => simp [h] at h'

theorem findAll_cons_of_none {α : Type} {p : Recogniser α} {c : Char} {cs : Text}
    (h : p.read? (c :: cs) = none) : findAll p (c :: cs) = findAll p cs := by
  rw [findAll]
  split
  · next h' => simp [h] at h'
  · rfl

@[simp]
theorem findAll_nil {α : Type} (p : Recogniser α) : findAll p [] = [] := by
  rw [findAll]
  split
  · next a r h => exact absurd (p.shorter h) (by simp)
  · rfl

/-- All findings that begin a line. The recogniser returns the start of a later line. -/
def findAllLines {α : Type} (p : Recogniser α) (s : Text) : List α :=
  match _h : p.read? s with
  | some (a, r) => a :: findAllLines p r
  | none =>
    match s with
    | [] => []
    | c :: cs => findAllLines p (nextLine (c :: cs))
termination_by s.length
decreasing_by
  · exact p.shorter _h
  · exact length_nextLine_lt (List.cons_ne_nil c cs)

theorem findAllLines_of_some {α : Type} {p : Recogniser α} {s r : Text} {a : α}
    (h : p.read? s = some (a, r)) : findAllLines p s = a :: findAllLines p r := by
  rw [findAllLines]
  split
  · next a' r' h' =>
    rw [h] at h'
    simp only [Option.some.injEq, Prod.mk.injEq] at h'
    rw [h'.1, h'.2]
  · next h' => simp [h] at h'

@[simp]
theorem findAllLines_nil {α : Type} (p : Recogniser α) : findAllLines p [] = [] := by
  rw [findAllLines]
  split
  · next a r h => exact absurd (p.shorter h) (by simp)
  · rfl

theorem findAllLines_of_none {α : Type} {p : Recogniser α} {s : Text} (h : p.read? s = none) :
    findAllLines p s = findAllLines p (nextLine s) := by
  cases s with
  | nil => rfl
  | cons c cs =>
    rw [findAllLines]
    split
    · next h' => simp [h] at h'
    · rfl

end PinGate.Text
