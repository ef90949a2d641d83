-- Dependencies of Gradle and Maven builds. A Gradle coordinate has three parts joined by colons
-- and never reaches over a blank or a quote; a Maven version stands between its tags.
import PinGate.Finding
import PinGate.Text.Blank
import PinGate.Text.Search

namespace PinGate.Check

open Text

/-! ## Gradle -/

/-- A dependency by group, artifact and version. -/
structure Coordinate where
  group : Text
  artifact : Text
  version : Text
  deriving Repr, DecidableEq

namespace Coordinate

/-- A character of a version: neither quote nor blank. -/
def isVersionChar (c : Char) : Bool := c != '\'' && c != '"' && !isBlank c

/-- A character of a group or an artifact, which holds no colon either. -/
def isPartChar (c : Char) : Bool := c != ':' && isVersionChar c

/-- A group, a colon, an artifact, a colon, and a version. -/
def read? (s : Text) : Option (Coordinate × Text) := do
  let (group, s) ← run? isPartChar s
  let s ← dropPrefix? [':'] s
  let (artifact, s) ← run? isPartChar s
  let s ← dropPrefix? [':'] s
  let (version, s) ← run? isVersionChar s
  return (⟨group, artifact, version⟩, s)

theorem shorter {s : Text} {d : Coordinate} {r : Text} (h : read? s = some (d, r)) :
    r.length < s.length := by
  simp only [read?, Option.bind_eq_bind, Option.bind_eq_some_iff, Prod.exists, Option.pure_def,
    Option.some.injEq, Prod.mk.injEq] at h
  obtain ⟨g, s₁, h₁, s₂, h₂, a, s₃, h₃, s₄, h₄, v, s₅, h₅, -, rfl⟩ := h
  have := length_of_run? h₁
  have := length_of_dropPrefix? h₂
  have := length_of_run? h₃
  have := length_of_dropPrefix? h₄
  have := length_of_run? h₅
  omega

/-- All coordinates of a text. -/
def all (s : Text) : List Coordinate := findAll ⟨read?, shorter⟩ s

/-- Whether the version is resolved anew by each build. -/
def isDynamic (d : Coordinate) : Bool :=
  contains ['+'] d.version || contains "latest".toList d.version

end Coordinate

/-! ## Maven -/

namespace MavenVersion

/-- A nonempty version between its tags. -/
def read? (s : Text) : Option (Text × Text) := do
  let s ← dropPrefix? "<version>".toList s
  let (version, s) ← run? (· != '<') s
  let s ← dropPrefix? "</version>".toList s
  return (version, s)

theorem shorter {s v r : Text} (h : read? s = some (v, r)) : r.length < s.length := by
  simp only [read?, Option.bind_eq_bind, Option.bind_eq_some_iff, Prod.exists, Option.pure_def,
    Option.some.injEq, Prod.mk.injEq] at h
  obtain ⟨s₁, h₁, v, s₂, h₂, s₃, h₃, -, rfl⟩ := h
  have := length_of_dropPrefix? h₁
  have := length_of_run? h₂
  have := length_of_dropPrefix? h₃
  omega

/-- All versions of a text. -/
def all (s : Text) : List Text := findAll ⟨read?, shorter⟩ s

/-- Whether the version is a snapshot or an alias. -/
def isFloating (version : Text) : Bool :=
  contains "SNAPSHOT".toList version || contains "RELEASE".toList version ||
    contains "LATEST".toList version

end MavenVersion

/-! ## Both -/

/-- The objections to a Java build, those to Gradle dependencies first. -/
def java (content : Text) : List Finding :=
  ((Coordinate.all content).filter Coordinate.isDynamic).map
      (fun d => .gradleVersion d.group d.artifact d.version) ++
    ((MavenVersion.all content).filter MavenVersion.isFloating).map .mavenVersion

end PinGate.Check
