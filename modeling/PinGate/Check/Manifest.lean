-- Images of Kubernetes manifests and of compose files. Both are judged alike; they differ in
-- that the value of a compose file may stand between quotes.
import PinGate.Check.Image

namespace PinGate.Check

open Text

/-- The key of an image. -/
def imageKey : Text := "image:".toList

/-! ## Kubernetes -/

namespace Container

/-- The key, blanks, and an image. -/
def read? (s : Text) : Option (ImageRef × Text) := do
  let s ← dropPrefix? imageKey s
  ImageRef.read? isBlank (skipBlanks s)

theorem shorter {s : Text} {i : ImageRef} {r : Text} (h : read? s = some (i, r)) :
    r.length < s.length := by
  simp only [read?, Option.bind_eq_bind, Option.bind_eq_some_iff] at h
  obtain ⟨s₁, h₁, h₂⟩ := h
  have := length_of_dropPrefix? h₁
  have := length_skipBlanks_le s₁
  have := ImageRef.shorter h₂
  omega

/-- All images of a text. -/
def all (s : Text) : List ImageRef := findAll ⟨read?, shorter⟩ s

end Container

/-- The objections to a Kubernetes manifest. -/
def kubernetes (content : Text) : List Finding :=
  ((Container.all content).filter (floats ·.tag)).map fun i => .containerImage i.image i.tag

/-! ## Compose -/

namespace Service

/-- Either quote. -/
def isQuote (c : Char) : Bool := c == '\'' || c == '"'

/-- A text without one quote at its start. -/
def skipQuote (s : Text) : Text := (dropOne? isQuote s).getD s

theorem length_skipQuote_le (s : Text) : (skipQuote s).length ≤ s.length := by
  unfold skipQuote
  cases h : dropOne? isQuote s with
  | none => exact Nat.le_refl _
  | some r =>
    have := length_of_dropOne? h
    simp only [Option.getD_some]
    omega

/-- The key, blanks, and an image that may have a quote on either side. -/
def read? (s : Text) : Option (ImageRef × Text) := do
  let s ← dropPrefix? imageKey s
  let (i, r) ← ImageRef.read? (fun c => isQuote c || isBlank c) (skipQuote (skipBlanks s))
  return (i, skipQuote r)

theorem shorter {s : Text} {i : ImageRef} {r : Text} (h : read? s = some (i, r)) :
    r.length < s.length := by
  simp only [read?, Option.bind_eq_bind, Option.bind_eq_some_iff, Prod.exists, Option.pure_def,
    Option.some.injEq, Prod.mk.injEq] at h
  obtain ⟨s₁, h₁, j, s₂, h₂, -, rfl⟩ := h
  have := length_of_dropPrefix? h₁
  have := length_skipBlanks_le s₁
  have := length_skipQuote_le (skipBlanks s₁)
  have := ImageRef.shorter h₂
  have := length_skipQuote_le s₂
  omega

/-- All images of a text. -/
def all (s : Text) : List ImageRef := findAll ⟨read?, shorter⟩ s

end Service

/-- The objections to a compose file. -/
def compose (content : Text) : List Finding :=
  ((Service.all content).filter (floats ·.tag)).map fun i => .serviceImage i.image i.tag

end PinGate.Check
