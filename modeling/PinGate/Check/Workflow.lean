-- Actions that a workflow uses. Only a reference of the form v1.2.3 is fixed; local actions have
-- no reference and are passed over.
import PinGate.Finding
import PinGate.Text.Blank
import PinGate.Text.Digit
import PinGate.Text.Search

namespace PinGate.Check

open Text

/-- An action and the reference it is used at. -/
structure ActionUse where
  action : Text
  ref : Text
  deriving Repr, DecidableEq

namespace ActionUse

/-- The key, blanks, an action, the sign `@`, and a reference. -/
def read? (s : Text) : Option (ActionUse × Text) := do
  let s ← dropPrefix? "uses:".toList s
  let s ← skipSomeBlanks? s
  let (action, s) ← run? (fun c => c != '@' && !isBlank c) s
  let s ← dropPrefix? ['@'] s
  let (ref, s) ← run? (fun c => !isBlank c) s
  return (⟨action, ref⟩, s)

theorem shorter {s : Text} {u : ActionUse} {r : Text} (h : read? s = some (u, r)) :
    r.length < s.length := by
  simp only [read?, Option.bind_eq_bind, Option.bind_eq_some_iff, Prod.exists, Option.pure_def,
    Option.some.injEq, Prod.mk.injEq] at h
  obtain ⟨s₁, h₁, s₂, h₂, a, s₃, h₃, s₄, h₄, v, s₅, h₅, -, rfl⟩ := h
  have := length_of_dropPrefix? h₁
  have := length_of_skipSomeBlanks? h₂
  have := length_of_run? h₃
  have := length_of_dropPrefix? h₄
  have := length_of_run? h₅
  omega

/-- All actions used in a text. -/
def all (s : Text) : List ActionUse := findAll ⟨read?, shorter⟩ s

/-- Whether a reference is the letter v and three numbers joined by points. -/
def isFullVersion (ref : Text) : Bool :=
  match ref with
  | 'v' :: version =>
    match version.splitOn '.' with
    | [major, minor, patch] => isNumber major && isNumber minor && isNumber patch
    | _ => false
  | _ => false

/-- Whether the reference can move: a main branch, or anything but a full version. -/
def isLoose (u : ActionUse) : Bool :=
  u.ref == "main".toList || u.ref == "master".toList || !isFullVersion u.ref

end ActionUse

/-- The objections to a workflow. -/
def workflow (content : Text) : List Finding :=
  ((ActionUse.all content).filter ActionUse.isLoose).map fun u => .actionRef u.action u.ref

end PinGate.Check
