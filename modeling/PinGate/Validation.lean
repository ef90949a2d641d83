-- The check of a pull request: its diff is fetched, read and analysed, and when there are
-- objections they are put on the pull request as a comment. Whatever fails on the way ends the
-- check, and nothing is put there.
import PinGate.Analysis
import PinGate.Failure
import PinGate.GitHub.Comment
import PinGate.Report

namespace PinGate

open Text

/-- What came of a check. -/
structure Verdict where
  pr : PullRequest
  issues : List Finding := []
  comment : Text := []
  posted : Bool := false
  deriving Repr, DecidableEq

namespace Verdict

/-- Whether the pull request is refused. -/
def failed (v : Verdict) : Bool := !v.issues.isEmpty

end Verdict

namespace Validation

/-- The report on some objections. -/
def report (issues : List Finding) : Text := Report.render (issues.map Finding.message)

/-- A record of the check. -/
def note (message : Text) : Record := ⟨.action, .info, message⟩

/-- The client that settings ask for. -/
def clientOf (settings : Settings) : GitHub.Client :=
  { token := settings.token, timeout := settings.timeout }

/-- Reading and analysing a diff. -/
def inspect (diff : Text) : Dialogue Failure (List Finding) := do
  Dialogue.record (readNotes diff)
  let files ← Dialogue.ofExcept ((Diff.read diff).mapError .diff)
  Dialogue.record (note ("Parsed ".toList ++ ofNat files.length ++ " file(s) from diff".toList) ::
    analyzeFilesNotes files)
  return analyzeFiles files

/-- What a check makes of the diff of a pull request. -/
def judge (settings : Settings) (client : GitHub.Client) (pr : PullRequest) (diff : Text) :
    Dialogue Failure Verdict := do
  if diff.isEmpty then
    Dialogue.record [note "No diff found".toList]
    return { pr }
  else
    let issues ← inspect diff
    if issues.isEmpty then
      Dialogue.record [note "No issues found, skipping comment creation".toList]
      return { pr }
    else
      let comment := report issues
      client.upsertComment pr comment settings.marker
      return { pr, issues, comment, posted := true }

/-- The check of the pull request that the event in the workspace names. -/
def run (records : RecordCheck) (w : Workspace) (settings : Settings) (client : GitHub.Client) :
    Dialogue Failure Verdict := do
  let pr ← Dialogue.ofExcept
    ((Event.load records w settings.eventPath settings.repository).mapError .event)
  Dialogue.record
    [note ("Validating ".toList ++ pr.slug ++ '#' :: ofInt pr.number)]
  let diff ← client.fetchDiff pr
  judge settings client pr diff

end Validation

end PinGate
