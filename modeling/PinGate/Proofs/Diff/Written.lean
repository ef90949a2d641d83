-- The unified format, from the side of the writer. A diff is a list of files, each with its headers
-- and its hunks; a hunk announces how many lines it has on either side and then holds just as many.
-- What the lines of a body say is free, so they may look like any header.
import PinGate.Diff.Header
import Mathlib.Data.List.DropRight

namespace PinGate.Diff.Written

open Text

/-! ## Lines -/

/-- A text that fits on a line: it has no line feed, and its end is not taken for a part of the
line's end. -/
def IsLine (s : Text) : Prop := '\n' ∉ s ∧ s.getLast? ≠ some '\r'

instance : DecidablePred IsLine := fun _ => inferInstanceAs (Decidable (_ ∧ _))

/-- The text of some lines. Each ends with a line feed, and with a carriage return in front of it
where `returns` says so. -/
def endLines (returns : Nat → Bool) : List Text → Text
  | [] => []
  | l :: ls =>
    l ++ (if returns 0 then ['\r', '\n'] else ['\n']) ++ endLines (fun i => returns (i + 1)) ls

/-! ## Hunks -/

/-- A line of a body. -/
inductive BodyLine where
  | added (s : Text)
  | removed (s : Text)
  | context (s : Text)
  /-- A line of context without text, whose space was left out. -/
  | empty
  deriving Repr, DecidableEq

namespace BodyLine

/-- The line as a reader should find it. -/
def line : BodyLine → Line
  | added s => ⟨.added, '+' :: s⟩
  | removed s => ⟨.removed, '-' :: s⟩
  | context s => ⟨.context, ' ' :: s⟩
  | empty => ⟨.context, []⟩

/-- Whether the line stands in the file before the change. -/
def isOld : BodyLine → Bool
  | added _ => false
  | _ => true

/-- Whether the line stands in the file after the change. -/
def isNew : BodyLine → Bool
  | removed _ => false
  | _ => true

end BodyLine

/-- The remark on a line that ends its file without a line feed. -/
def remark : Text := "\\ No newline at end of file".toList

/-- A line of a body, and how many remarks stand behind it. -/
structure Entry where
  line : BodyLine
  remarks : Nat := 0
  deriving Repr, DecidableEq

/-- The lines of an entry. -/
def Entry.texts (e : Entry) : List Text := e.line.line.text :: List.replicate e.remarks remark

/-- Where a hunk stands on one side. A count of one may be left out. -/
structure Range where
  start : Nat
  count : Nat
  isShort : Bool := false
  start_fits : (ofNat start).length ≤ maxDigits := by decide
  count_fits : (ofNat count).length ≤ maxDigits := by decide
  short_one : isShort = true → count = 1 := by decide

/-- The numbers of a range. -/
def Range.text (r : Range) : Text := ofNat r.start ++ if r.isShort then [] else ',' :: ofNat r.count

/-- A hunk. Its ranges count the lines of its body. -/
structure Hunk where
  old : Range
  new : Range
  /-- What follows the ranges, up to the end of the line. -/
  heading : Text := []
  body : List Entry
  heading_line : '\n' ∉ heading := by decide
  body_lines : ∀ e ∈ body, IsLine e.line.line.text := by decide
  old_count : old.count = body.countP (·.line.isOld) := by decide
  new_count : new.count = body.countP (·.line.isNew) := by decide

namespace Hunk

/-- The header without what follows the ranges. -/
def spanText (h : Hunk) : Text :=
  "@@ -".toList ++ h.old.text ++ " +".toList ++ h.new.text ++ " @@".toList

/-- The lines of a hunk. -/
def lines (h : Hunk) : List Text := (h.spanText ++ h.heading) :: h.body.flatMap Entry.texts

/-- The hunk as a reader should find it. -/
def hunk (h : Hunk) : Diff.Hunk :=
  ⟨⟨h.old.start, h.old.count, h.new.start, h.new.count⟩, h.body.map (·.line.line)⟩

end Hunk

/-! ## Files -/

/-- A header of a file, between the line that starts it and the names of its two sides. -/
inductive Header where
  | newFile (mode : Text)
  | deletedFile (mode : Text)
  | oldMode (mode : Text)
  | newMode (mode : Text)
  | similarity (percent : Text)
  | renameFrom
  | renameTo
  | index (hashes : Text)
  deriving Repr, DecidableEq

namespace Header

/-- A header of a file that was called `old` and is called `new`. -/
def text (old new : Text) : Header → Text
  | newFile mode => "new file mode ".toList ++ mode
  | deletedFile mode => "deleted file mode ".toList ++ mode
  | oldMode mode => "old mode ".toList ++ mode
  | newMode mode => "new mode ".toList ++ mode
  | similarity percent => "similarity index ".toList ++ percent
  | renameFrom => "rename from ".toList ++ old
  | renameTo => "rename to ".toList ++ new
  | index hashes => "index ".toList ++ hashes

/-- The status that a header tells. -/
def status? : Header → Option Status
  | newFile _ => some .added
  | deletedFile _ => some .deleted
  | renameFrom => some .renamed
  | _ => none

end Header

/-- How the line of the new side ends: with the new name, which a tab may close, or with no file. -/
inductive Target where
  | name (tab : Bool)
  | null
  deriving Repr, DecidableEq

/-- A file, called `old` before the change and `new` after it. Its headers tell its status and no
other one; a file that is modified has no header for that. -/
structure File where
  old : Text
  new : Text
  status : Status
  headers : List Header
  /-- Whether the line of the old side names no file. -/
  oldIsNull : Bool := false
  target : Target := .name false
  hunks : List Hunk
  old_line : IsLine old := by decide
  new_line : IsLine new := by decide
  header_lines : ∀ h ∈ headers, IsLine (h.text old new) := by decide
  told_only : ∀ h ∈ headers, h.status? = none ∨ h.status? = some status := by decide
  told : status = .modified ∨ ∃ h ∈ headers, h.status? = some status := by decide

/-- What a reader keeps of a name on the line of the new side: all up to a tab, without blanks at
the end. -/
def shownName (name : Text) : Text := (name.takeWhile (· != '\t')).rdropWhile isBlank

/-- What a reader keeps of the old name of a renaming: all behind the last `rename from ` in it. -/
def renamedName (name : Text) : Text := (afterLast? "rename from ".toList name).getD name

namespace File

/-- The line that starts a file. -/
def startText (f : File) : Text :=
  "diff --git ".toList ++ ("a/".toList ++ f.old) ++ (" b/".toList ++ f.new)

/-- The line of the old side. -/
def oldText (f : File) : Text :=
  "--- ".toList ++ if f.oldIsNull then devNull else "a/".toList ++ f.old

/-- The line of the new side. -/
def newText (f : File) : Text :=
  "+++ ".toList ++
    match f.target with
    | .name tab => "b/".toList ++ f.new ++ if tab then ['\t'] else []
    | .null => devNull

/-- The lines of a file. -/
def lines (f : File) : List Text :=
  f.startText :: f.headers.map (·.text f.old f.new) ++ [f.oldText, f.newText] ++
    f.hunks.flatMap Hunk.lines

/-- The path as a reader should find it. -/
def path (f : File) : Text :=
  match f.target with
  | .name _ => shownName f.new
  | .null => devNull

/-- The path before a renaming as a reader should find it. -/
def oldPath (f : File) : Option Text :=
  if f.status = .renamed then some (renamedName f.old) else none

/-- The file as a reader should find it. -/
def file (f : File) : ChangedFile := ⟨f.path, f.status, f.oldPath, f.hunks.map Hunk.hunk⟩

/-- Both names can be told from what follows or precedes them on their lines. -/
structure HasPlainNames (f : File) : Prop where
  new_tab : '\t' ∉ f.new
  new_end : ∀ c, f.new.getLast? = some c → isBlank c = false
  old_words : contains "rename from ".toList f.old = false

end File

end PinGate.Diff.Written
