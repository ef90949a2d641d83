-- The command that scans a diff without a pull request: one from a file or from the input, or that
-- of the local repository. It ends with exit code one when there are objections, or when the diff
-- cannot be read.
import PinGate.Analysis
import PinGate.CommandLine.Ending
import PinGate.CommandLine.Invocation
import PinGate.Json.Writer
import PinGate.LocalDiff
import PinGate.Report
import PinGate.Text.Lines

namespace PinGate.CommandLine

open Text Terminal Diff

namespace Scan

/-! ## The result -/

/-- A file as a record. -/
def fileRecord (f : ChangedFile) : Json.Value :=
  .object [
    ("path".toList, .string f.path),
    ("status".toList, .string f.status.name),
    ("added".toList, .int (f.count .added)),
    ("deleted".toList, .int (f.count .removed))]

/-- The result of a scan as a record. -/
def resultRecord (files : List ChangedFile) (issues : List Finding) : Json.Value :=
  .object [
    ("files".toList, .array (files.map fileRecord)),
    ("issues".toList, .array (issues.map fun i => .string i.message))]

/-- The result of a scan for a reader. -/
def resultLines (c : Console) (files : List ChangedFile) (issues : List Finding) : Text :=
  if issues.isEmpty then
    c.line .success ("No issues found in ".toList ++ ofNat files.length ++ " file(s)".toList)
  else
    c.line .information ("Found ".toList ++ ofNat issues.length ++ " issue(s) in ".toList ++
      ofNat files.length ++ " file(s):".toList) ++ c.items (issues.map Finding.message)

/-- The result of a scan in a format. -/
def resultOutput (c : Console) (format : Format) (files : List ChangedFile)
    (issues : List Finding) : Text :=
  match format with
  | .text => resultLines c files issues
  | .markdown =>
    if issues.isEmpty then [] else c.echo (Report.render (issues.map Finding.message))
  | .json => c.echo (Json.write (resultRecord files issues))

/-! ## The scan -/

/-- The scan of a diff. -/
def ofDiff (c : Console) (level : Level) (format : Format) (diff : Text) :
    Dialogue Empty Ending := do
  Dialogue.record (readNotes diff)
  match Diff.read diff with
  | .error e =>
    if (Failure.diff e).isForeseen then
      return { code := 1, output := c.line .failure e.message, level }
    else return Ending.escape level (.diff e)
  | .ok files =>
    Dialogue.record (analyzeFilesNotes files)
    let issues := analyzeFiles files
    return {
      code := if issues.isEmpty then 0 else 1
      output := resultOutput c format files issues
      level }

/-- The scan of what the local repository gave. -/
def ofFetched (c : Console) (level : Level) (format : Format) :
    Except Failure Text → Dialogue Empty Ending
  | .ok diff => ofDiff c level format diff
  | .error e => return Ending.escape level e

/-- The scan of the local repository at a path. What stands there need not be a directory; whether
git can be started in it is for the call to say. -/
def ofRepository (c : Console) (w : Workspace) (level : Level) (o : ScanOptions) :
    Dialogue Empty Ending :=
  match w.lookUpSettled o.path with
  | .missing =>
    return {
      code := 1
      output := c.line .failure ("Path does not exist: ".toList ++ o.path)
      level }
  | .nameTooLong => return Ending.escape level (.file (.nameTooLong o.path))
  | .unnameable => return Ending.escape level (.file .unnameable)
  | _ => (LocalDiff.fetch (settled o.path) o.base).andThen (ofFetched c level o.format)

/-- The scan of a file. -/
def ofFile (c : Console) (w : Workspace) (level : Level) (format : Format) (path : Text) :
    Dialogue Empty Ending :=
  match w.readFile? path with
  | none => return Ending.misuse
  | some (.error .unnameable) => return Ending.escape .debug (.file .unnameable)
  | some (.error e) => return Ending.escape level (.file e)
  | some (.ok diff) => ofDiff c level format (unifyBreaks diff)

/-- The least level of record that is kept. -/
def level (full : Bool) : Level := if full then .debug else .warning

/-- The scan that the options ask for. -/
def run (s : Surroundings) (verbose : Bool) (o : ScanOptions) : Dialogue Empty Ending :=
  let level := level (verbose || Settings.runnerDebug s.environment)
  let console := s.packages.console
  (match o.source with
    | none => ofRepository console s.workspace level o
    | some path =>
      if path = ['-'] then ofDiff console level o.format (unifyBreaks s.input)
      else ofFile console s.workspace level o.format path).keeping level

end Scan

end PinGate.CommandLine
