-- References to container images: a name, and perhaps a tag behind a colon. The name ends at the
-- first colon, so of a reference with a port the port counts as the start of the tag.
import PinGate.Finding
import PinGate.Text.Blank
import PinGate.Text.Digit
import PinGate.Text.Search

namespace PinGate.Check

open Text

/-- An image and its tag. -/
structure ImageRef where
  image : Text
  tag : Option Text
  deriving Repr, DecidableEq

namespace ImageRef

/-- An image, and a tag if a colon with something behind it follows. `ends` are the characters
that can stand in neither. -/
def read? (ends : Char → Bool) (s : Text) : Option (ImageRef × Text) := do
  let (image, s) ← run? (fun c => c != ':' && !ends c) s
  match (dropPrefix? [':'] s).bind (run? fun c => !ends c) with
  | some (tag, r) => return (⟨image, some tag⟩, r)
  | none => return (⟨image, none⟩, s)

theorem shorter {ends : Char → Bool} {s : Text} {i : ImageRef} {r : Text}
    (h : read? ends s = some (i, r)) : r.length < s.length := by
  simp only [read?, Option.bind_eq_bind, Option.bind_eq_some_iff, Prod.exists,
    Option.pure_def] at h
  obtain ⟨image, t, ht, h⟩ := h
  have h₀ := length_of_run? ht
  split at h
  · next tag u hu =>
    obtain ⟨v, hv, hu⟩ := Option.bind_eq_some_iff.1 hu
    have h₁ := length_of_dropPrefix? hv
    have h₂ := length_of_run? hu
    simp only [Option.some.injEq, Prod.mk.injEq] at h
    rw [← h.2]
    omega
  · simp only [Option.some.injEq, Prod.mk.injEq] at h
    rw [← h.2]
    exact h₀

end ImageRef

/-! ## Tags that can move -/

/-- Two numbers joined by a point. -/
def isMajorMinor (tag : Text) : Bool :=
  match splitOnce? '.' tag with
  | some (major, minor) => isNumber major && isNumber minor
  | none => false

/-- A tag that names less than a full version: a number, or two joined by a point. -/
def isPartialVersion (tag : Text) : Bool := isNumber tag || isMajorMinor tag

/-- A tag made of ASCII letters only. -/
def isPlainWord (tag : Text) : Bool := !tag.isEmpty && tag.all Char.isAlpha

/-- Whether a tag in a manifest can move: none, the default one, or a partial version. -/
def floats : Option Text → Bool
  | none => true
  | some tag => tag == "latest".toList || isPartialVersion tag

end PinGate.Check
