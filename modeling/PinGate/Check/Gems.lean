-- Gems of a Gemfile. A gem without a version is passed over; one with a range is objected to.
import PinGate.Finding
import PinGate.Text.Blank
import PinGate.Text.Search

namespace PinGate.Check

open Text

/-- A gem with its version. -/
structure Gem where
  name : Text
  version : Text
  deriving Repr, DecidableEq

namespace Gem

/-- Either quote. -/
def isQuote (c : Char) : Bool := c == '\'' || c == '"'

/-- A nonempty text between quotes, which need not be the same on both sides. -/
def readQuoted? (s : Text) : Option (Text × Text) := do
  let s ← dropOne? isQuote s
  let (w, s) ← run? (fun c => !isQuote c) s
  let s ← dropOne? isQuote s
  return (w, s)

/-- The word `gem`, blanks, a quoted name, a comma with blanks around it, a quoted version. -/
def read? (s : Text) : Option (Gem × Text) := do
  let s ← dropPrefix? ['g', 'e', 'm'] s
  let s ← skipSomeBlanks? s
  let (name, s) ← readQuoted? s
  let s ← dropPrefix? [','] (skipBlanks s)
  let (version, s) ← readQuoted? (skipBlanks s)
  return (⟨name, version⟩, s)

theorem length_of_readQuoted? {s w r : Text} (h : readQuoted? s = some (w, r)) :
    r.length < s.length := by
  simp only [readQuoted?, Option.bind_eq_bind, Option.bind_eq_some_iff, Prod.exists,
    Option.pure_def, Option.some.injEq, Prod.mk.injEq] at h
  obtain ⟨s₁, h₁, w', s₂, h₂, s₃, h₃, -, rfl⟩ := h
  have := length_of_dropOne? h₁
  have := length_of_run? h₂
  have := length_of_dropOne? h₃
  omega

theorem shorter {s : Text} {g : Gem} {r : Text} (h : read? s = some (g, r)) :
    r.length < s.length := by
  simp only [read?, Option.bind_eq_bind, Option.bind_eq_some_iff, Prod.exists, Option.pure_def,
    Option.some.injEq, Prod.mk.injEq] at h
  obtain ⟨s₁, h₁, s₂, h₂, n, s₃, h₃, s₄, h₄, v, s₅, h₅, -, rfl⟩ := h
  have := length_of_dropPrefix? h₁
  have := length_of_skipSomeBlanks? h₂
  have := length_of_readQuoted? h₃
  have := length_skipBlanks_le s₃
  have := length_of_dropPrefix? h₄
  have := length_skipBlanks_le s₄
  have := length_of_readQuoted? h₅
  omega

/-- All gems of a text that have a version. -/
def all (s : Text) : List Gem := findAll ⟨read?, shorter⟩ s

/-- Whether more than one version fits. -/
def isRange (g : Gem) : Bool :=
  contains ['~', '>'] g.version || contains ['>'] g.version || contains ['<'] g.version

end Gem

/-- The objections to a Gemfile. -/
def gems (content : Text) : List Finding :=
  ((Gem.all content).filter Gem.isRange).map fun g => .gemRange g.name g.version

end PinGate.Check
