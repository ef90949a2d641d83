-- Base images of a Dockerfile. Added lines are read without their marker. The image may stand
-- on a later line than its keyword. A line whose keyword is followed by blanks up to the end of
-- the text counts as a line without an image.
import PinGate.Check.Image
import PinGate.Text.Lines

namespace PinGate.Check

open Text

/-- Each line without the marker of an added line. -/
def stripMarkers (content : Text) : Text :=
  unlines ((lines content).map fun
    | '+' :: l => l
    | l => l)

/-- A line that chooses a base image; the image is missing when none can be read. -/
structure BaseLine where
  base : Option ImageRef
  deriving Repr, DecidableEq

namespace BaseLine

/-- The keyword, blanks, and the rest of the line where they end. -/
def read? (s : Text) : Option (BaseLine × Text) := do
  let s ← dropPrefix? "FROM".toList s
  let r ← skipSomeBlanks? s
  if r.isEmpty then
    if (s.drop 1).all (· == '\n') then none else return (⟨none⟩, [])
  else return (⟨(ImageRef.read? isBlank r).map Prod.fst⟩, nextLine r)

theorem shorter {s : Text} {l : BaseLine} {r : Text} (h : read? s = some (l, r)) :
    r.length < s.length := by
  simp only [read?, Option.bind_eq_bind, Option.bind_eq_some_iff, Option.pure_def] at h
  obtain ⟨s₁, h₁, s₂, h₂, h⟩ := h
  have := length_of_dropPrefix? h₁
  have := length_of_skipSomeBlanks? h₂
  have := length_nextLine_le s₂
  split at h
  · split at h
    · simp at h
    · simp only [Option.some.injEq, Prod.mk.injEq] at h
      rw [← h.2]
      simp only [List.length_nil]
      omega
  · simp only [Option.some.injEq, Prod.mk.injEq] at h
    rw [← h.2]
    omega

/-- All lines of a text that choose a base image. -/
def all (s : Text) : List BaseLine := findAllLines ⟨read?, shorter⟩ s

end BaseLine

/-- Whether a tag of a base image can move: a well-known name, a partial version, or a plain
word. -/
def baseFloats (tag : Text) : Bool :=
  ["latest".toList, "stable".toList, "rolling".toList, "alpine".toList].contains tag ||
    isPartialVersion tag || isPlainWord tag

/-- The objection to a base image. -/
def judgeBase (i : ImageRef) : Option Finding :=
  match i.tag with
  | none => some (.baseUntagged i.image)
  | some tag => if baseFloats tag then some (.baseFloating i.image tag) else none

/-- The base images of a Dockerfile. -/
def baseImages (content : Text) : List ImageRef :=
  (BaseLine.all (stripMarkers content)).filterMap BaseLine.base

/-- The objections to a Dockerfile. -/
def dockerfile (content : Text) : List Finding := (baseImages content).filterMap judgeBase

end PinGate.Check
