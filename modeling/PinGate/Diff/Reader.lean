-- Reading a diff, line by line. A hunk's header announces how many lines it has on either side,
-- and as long as lines are owed every line that can be one is, whatever it looks like. All other
-- lines are headers or are passed over.
import PinGate.Diff.Header
import PinGate.Text.Quoted

namespace PinGate.Diff

open Text

/-- Why a diff cannot be read. -/
inductive Error where
  /-- A line of the file at `path` starts like the header of a hunk and is none. -/
  | malformedHeader (path line : Text)
  /-- A number of a hunk's header is too long. -/
  | number (fault : TooLong)
  deriving Repr, DecidableEq

/-- The error as it is told. -/
def Error.message : Error → Text
  | malformedHeader path line =>
    "Malformed hunk header in ".toList ++ path ++ ": ".toList ++ quoted line
  | number fault => fault.message

/-! ## The file being read -/

/-- A file of which not all lines have been read. The last hunk is kept apart from the others,
because lines may still be added to it. -/
structure Draft where
  path : Text
  status : Status := .modified
  oldPath : Option Text := none
  hunks : Array Hunk := #[]
  last : Option (Span × Array Line) := none

namespace Draft

/-- The last hunk, as one of the others. -/
def lastHunk (d : Draft) : Option Hunk := d.last.map fun (span, lines) => ⟨span, lines.toList⟩

/-- The file as far as it has been read. -/
def toFile (d : Draft) : ChangedFile :=
  ⟨d.path, d.status, d.oldPath, d.hunks.toList ++ d.lastHunk.toList⟩

/-- The file with a new hunk behind the others. -/
def openHunk (d : Draft) (span : Span) : Draft :=
  { d with hunks := d.hunks ++ d.lastHunk.toArray, last := some (span, #[]) }

/-- The file with one more line in its last hunk. -/
def addLine (d : Draft) (l : Line) : Draft :=
  { d with last := d.last.map fun (span, lines) => (span, lines.push l) }

@[simp]
theorem toFile_openHunk (d : Draft) (span : Span) :
    (d.openHunk span).toFile = { d.toFile with hunks := d.toFile.hunks ++ [⟨span, []⟩] } := by
  simp [toFile, openHunk, lastHunk]

end Draft

/-! ## The state between two lines -/

/-- The lines that the last hunk is still owed on either side. -/
structure Owed where
  old : Nat
  new : Nat
  deriving Repr, DecidableEq

namespace Owed

/-- Nothing is owed. -/
def nothing : Owed := ⟨0, 0⟩

/-- Whether the hunk is not complete. -/
def isOpen (o : Owed) : Bool := 0 < o.old || 0 < o.new

/-- What is owed after one more line. A side that is complete stays so. -/
def after (o : Owed) : LineKind → Owed
  | .added => ⟨o.old, o.new - 1⟩
  | .removed => ⟨o.old - 1, o.new⟩
  | _ => ⟨o.old - 1, o.new - 1⟩

end Owed

/-- The files that are complete, the one being read, and the lines owed to it. -/
structure State where
  files : Array ChangedFile
  draft : Option Draft
  owed : Owed

namespace State

/-- Nothing read. -/
def start : State := ⟨#[], none, .nothing⟩

/-- All files, the one being read included. -/
def allFiles (s : State) : List ChangedFile := s.files.toList ++ (s.draft.map Draft.toFile).toList

/-- The state at the start of a file. -/
def openFile (s : State) (path : Text) : State :=
  ⟨s.files ++ (s.draft.map Draft.toFile).toArray, some { path := path }, .nothing⟩

@[simp]
theorem allFiles_openFile (s : State) (path : Text) :
    (s.openFile path).allFiles = s.allFiles ++ [⟨path, .modified, none, []⟩] := by
  simp [allFiles, openFile, Draft.toFile, Draft.lastHunk]

end State

/-- A header of the file being read. -/
def Draft.header (d : Draft) (line : Text) : Except Error (Draft × Owed) :=
  if startsWith "new file".toList line then
    .ok ({ d with status := .added }, .nothing)
  else if startsWith "deleted file".toList line then
    .ok ({ d with status := .deleted, path := devNull }, .nothing)
  else if startsWith "rename from".toList line then
    .ok ({ d with status := .renamed, oldPath := some (pathBehind "rename from ".toList line) },
      .nothing)
  else if startsWith "rename to".toList line then
    .ok ({ d with path := pathBehind "rename to ".toList line }, .nothing)
  else if startsWith "--- ".toList line then
    .ok (d, .nothing)
  else if startsWith "+++ ".toList line then
    .ok ({ d with path := pathOfTarget line }, .nothing)
  else if startsWith "@@".toList line then
    match SpanDigits.read? line with
    | none => .error (.malformedHeader d.path line)
    | some digits => do
      let span ← (Span.ofDigits digits).mapError .number
      return (d.openHunk span, ⟨span.oldCount, span.newCount⟩)
  else .ok (d, .nothing)

namespace State

/-- A line outside any hunk's body. -/
def header (s : State) (line : Text) : Except Error State :=
  if startsWith "diff --git".toList line then .ok (s.openFile (pathOfStart line))
  else
    match s.draft with
    | none => .ok { s with owed := .nothing }
    | some d => do
      let (d, owed) ← d.header line
      return { s with draft := some d, owed := owed }

/-- What one line does. A remark on the line before is passed over inside a body. -/
def step (s : State) (line : Text) : Except Error State :=
  if s.owed.isOpen then
    if startsWith ['\\'] line then .ok s
    else
      match LineKind.ofLine? line with
      | some kind =>
        .ok { s with draft := s.draft.map (·.addLine ⟨kind, line⟩), owed := s.owed.after kind }
      | none => s.header line
  else s.header line

/-- Whether a line breaks off a hunk that is still owed lines. -/
def breaksOff (s : State) (line : Text) : Bool :=
  s.owed.isOpen && !startsWith ['\\'] line && (LineKind.ofLine? line).isNone

/-- The lines that break off a hunk, up to the first error. -/
def earlyEnds (s : State) : List Text → List Text
  | [] => []
  | l :: ls =>
    let here := if s.breaksOff l then [l] else []
    match s.step l with
    | .ok t => here ++ earlyEnds t ls
    | .error _ => here

end State

/-- The lines of a diff. A carriage return at the end of a line is not part of it. -/
def linesOf (diff : Text) : List Text := (lines diff).map (dropSuffix ['\r'])

/-- The files that a diff changes. -/
def read (diff : Text) : Except Error (List ChangedFile) := do
  let s ← (linesOf diff).foldlM State.step State.start
  return s.allFiles

/-- The lines of a diff that break off a hunk. -/
def earlyEnds (diff : Text) : List Text := State.start.earlyEnds (linesOf diff)

end PinGate.Diff
