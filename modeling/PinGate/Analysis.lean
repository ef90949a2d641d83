-- Running the checks over a diff. Each file is judged by its text after the change, as far as
-- the diff shows it; removed lines play no part.
import PinGate.Diff.Reader
import PinGate.Validator

namespace PinGate

open Text Diff

/-! ## The objections -/

/-- The text of a file after the change, hunk by hunk. -/
def visibleText (f : ChangedFile) : Text :=
  unlines (f.hunks.map fun h => unlines ((h.lines.filter Line.isVisible).map Line.text))

/-- The objections to a file: those of its validators in order, then those to a migration. -/
def analyzeFile (f : ChangedFile) : List Finding :=
  if f.isDeleted then []
  else
    (Validator.forPath f.path).flatMap (fun v => v.check (visibleText f)) ++
      if Check.isMigrationPath f.path then Check.migration (visibleText f) else []

/-- The objections to some files, in order. -/
def analyzeFiles (files : List ChangedFile) : List Finding := files.flatMap analyzeFile

/-! ## The journal -/

/-- How many objections a check of a file found. -/
def countNote (path check : Text) (found : Nat) : Record :=
  ⟨.analyzer, .debug, path ++ ": ".toList ++ check ++ " found ".toList ++ ofNat found ++
    " issue(s)".toList⟩

/-- The records of the checks of one file. -/
def analyzeFileNotes (f : ChangedFile) : List Record :=
  if f.isDeleted then []
  else
    let blob := visibleText f
    (Validator.forPath f.path).flatMap (fun v =>
        v.notes blob ++ [countNote f.path (v.name ++ " validator".toList) (v.check blob).length]) ++
      if Check.isMigrationPath f.path then
        Check.migrationNotes blob ++
          [countNote f.path "migration checker".toList (Check.migration blob).length]
      else []

/-- The records of the checks of some files. -/
def analyzeFilesNotes (files : List ChangedFile) : List Record :=
  ⟨.analyzer, .info, "Analyzing ".toList ++ ofNat files.length ++ " file(s)".toList⟩ ::
    files.flatMap (fun f =>
      if f.isDeleted then []
      else ⟨.analyzer, .debug, "Analyzing file: ".toList ++ f.path⟩ :: analyzeFileNotes f) ++
    [⟨.analyzer, .info,
      "Found ".toList ++ ofNat (analyzeFiles files).length ++ " total issue(s)".toList⟩]

/-- The records of reading a diff: each line that breaks off a hunk. -/
def readNotes (diff : Text) : List Record :=
  (earlyEnds diff).map fun line =>
    ⟨.gitHub, .debug, "Hunk ended early at line: ".toList ++ quoted line⟩

end PinGate
