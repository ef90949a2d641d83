-- What a diff says: the files that it changes, and in each the hunks with their lines.
import PinGate.Text.Basic

namespace PinGate.Diff

/-- How a line of a hunk takes part in the change. -/
inductive LineKind where
  | added
  | removed
  | context
  /-- A kind that no diff has; such lines belong to neither side. -/
  | other (name : Text)
  deriving Repr, DecidableEq

/-- The kind that a line of a hunk shows by its first character. An empty line is context whose
space was lost. -/
def LineKind.ofLine? : Text → Option LineKind
  | [] => some context
  | '+' :: _ => some added
  | '-' :: _ => some removed
  | ' ' :: _ => some context
  | _ => none

/-- One line of a hunk, its marker included. -/
structure Line where
  kind : LineKind
  text : Text
  deriving Repr, DecidableEq

/-- Whether a line stands in the file after the change. -/
def Line.isVisible (l : Line) : Bool := l.kind == .added || l.kind == .context

/-- Where a hunk stands, and how many lines it has on either side. -/
structure Span where
  oldStart : Nat
  oldCount : Nat
  newStart : Nat
  newCount : Nat
  deriving Repr, DecidableEq

/-- A hunk. -/
structure Hunk where
  span : Span
  lines : List Line
  deriving Repr, DecidableEq

/-- What happens to a file. -/
inductive Status where
  | modified | added | deleted | renamed
  deriving Repr, DecidableEq

/-- The name of a status. -/
def Status.name : Status → Text
  | modified => "modified".toList
  | added => "added".toList
  | deleted => "deleted".toList
  | renamed => "renamed".toList

/-- The path that stands for no file. -/
def devNull : Text := "/dev/null".toList

/-- The changes to one file. -/
structure ChangedFile where
  path : Text
  status : Status
  /-- The path before a renaming. -/
  oldPath : Option Text
  hunks : List Hunk
  deriving Repr, DecidableEq

namespace ChangedFile

/-- Whether there is no file after the change. -/
def isDeleted (f : ChangedFile) : Bool := f.path.isEmpty || f.path == devNull

/-- All lines of a file's hunks. -/
def lines (f : ChangedFile) : List Line := f.hunks.flatMap Hunk.lines

/-- The number of lines of one kind. -/
def count (kind : LineKind) (f : ChangedFile) : Nat := f.lines.countP (·.kind == kind)

end ChangedFile

end PinGate.Diff
