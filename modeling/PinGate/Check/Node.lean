-- Packages of a JavaScript manifest. Every quoted pair joined by a colon counts as a package and
-- its version, wherever it stands; caret, tilde and wildcard versions are objected to.
import PinGate.Finding
import PinGate.Text.Blank
import PinGate.Text.Search

namespace PinGate.Check

open Text

/-- A member of an object whose value is a string. -/
structure Member where
  name : Text
  value : Text
  deriving Repr, DecidableEq

namespace Member

/-- A quoted nonempty name, a colon right behind it, blanks, and a quoted nonempty value. -/
def read? (s : Text) : Option (Member × Text) := do
  let s ← dropPrefix? ['"'] s
  let (name, s) ← run? (· != '"') s
  let s ← dropPrefix? ['"', ':'] s
  let s ← dropPrefix? ['"'] (skipBlanks s)
  let (value, s) ← run? (· != '"') s
  let s ← dropPrefix? ['"'] s
  return (⟨name, value⟩, s)

theorem shorter {s : Text} {m : Member} {r : Text} (h : read? s = some (m, r)) :
    r.length < s.length := by
  simp only [read?, Option.bind_eq_bind, Option.bind_eq_some_iff, Prod.exists, Option.pure_def,
    Option.some.injEq, Prod.mk.injEq] at h
  obtain ⟨s₁, h₁, n, s₂, h₂, s₃, h₃, s₄, h₄, v, s₅, h₅, s₆, h₆, -, rfl⟩ := h
  have := length_of_dropPrefix? h₁
  have := length_of_run? h₂
  have := length_of_dropPrefix? h₃
  have := length_of_dropPrefix? h₄
  have := length_skipBlanks_le s₃
  have := length_of_run? h₅
  have := length_of_dropPrefix? h₆
  omega

/-- All members of a text. -/
def all (s : Text) : List Member := findAll ⟨read?, shorter⟩ s

/-- Whether the value is a version that can move. -/
def isRange (m : Member) : Bool :=
  startsWith ['^'] m.value || startsWith ['~'] m.value || m.value == ['*']

end Member

/-- The objections to a manifest. -/
def node (content : Text) : List Finding :=
  ((Member.all content).filter Member.isRange).map fun m => .packageRange m.name m.value

end PinGate.Check
