-- The command that checks a pull request. Every failure ends it the same way: with an annotation
-- of the workflow, a message, and exit code one; so do objections.
import PinGate.CommandLine.Ending
import PinGate.Validation

namespace PinGate.CommandLine

open Text Terminal

namespace Gate

/-- A message as an annotation of the workflow and as a line of its own. -/
def annotate (c : Console) (message : Text) : Text :=
  c.echo ("::error::".toList ++ message) ++ c.line .failure message

/-- What a run without objections ends with. -/
def clearance : Text := "No version pinning or migration issues found".toList

/-- What a run with objections ends with. -/
def refusal : Text :=
  "❌ Version pinning and migration validation failed. See PR comments for details.".toList

/-- The output of a run that a failure ended. -/
def failureOutput (c : Console) (e : Failure) : Text :=
  annotate c ("Action failed: ".toList ++ e.message)

/-- How many objections there are, and to what. -/
def countOf (v : Verdict) : Text :=
  "Found ".toList ++ ofNat v.issues.length ++ " issue(s) in ".toList ++ v.pr.slug ++
    '#' :: ofInt v.pr.number

/-- That as a message. -/
def countLine (c : Console) (v : Verdict) : Text := c.line .warning (countOf v)

/-- The output of a run that came to a verdict. -/
def verdictOutput (c : Console) (v : Verdict) : Text :=
  if v.failed then countLine c v ++ annotate c refusal
  else c.line .success clearance

/-- The record of a failure that is not foreseen. -/
def surpriseNotes (e : Failure) : List Record :=
  if e.isForeseen then []
  else [⟨.gate, .error, "Unexpected error during validation".toList⟩]

/-- The end of a run that keeps records from a level on. -/
def conclude (c : Console) (level : Level) : Except Failure Verdict → Dialogue Empty Ending
  | .error e => do
    Dialogue.record (surpriseNotes e)
    return { code := 1, output := failureOutput c e, level }
  | .ok v => return { code := if v.failed then 1 else 0, output := verdictOutput c v, level }

/-- The least level of record that is kept. -/
def level (full : Bool) : Level := if full then .debug else .info

/-- The check of the pull request that the surroundings name. -/
def run (s : Surroundings) (verbose : Bool) (token : Option Text) : Dialogue Empty Ending :=
  let conclude := conclude s.packages.console
  match Settings.ofEnvironment s.environment token with
  | .error e => (conclude (level verbose) (.error (.settings e))).keeping (level verbose)
  | .ok settings =>
    let level := level (verbose || settings.debug)
    let client := Validation.clientOf settings
    ((Validation.run s.packages.records s.workspace settings client).andThen
      (conclude level)).keeping level

end Gate

end PinGate.CommandLine
