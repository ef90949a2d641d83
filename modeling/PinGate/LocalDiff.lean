-- The diff of the local repository against a base. The changes since the branch left the base
-- are asked for first; when that does not end well, the difference to the base itself. When git is
-- missing or too slow there is no diff; what else may break a call is not dealt with here.
import PinGate.Dialogue
import PinGate.Failure

namespace PinGate

open Text

namespace LocalDiff

/-- A list of texts, each quoted. -/
def quotedList (items : List Text) : Text :=
  '[' :: ", ".toList.intercalate (items.map quoted) ++ [']']

/-- That a call did not come to an end, as a record tells it. -/
def failureNote (base reason : Text) : Record :=
  ⟨.gitHub, .warning, "Could not run git diff against ".toList ++ base ++ ": ".toList ++ reason⟩

/-- Why a call that timed out gave nothing. -/
def timeoutReason (c : Call) : Text :=
  "Command '".toList ++ quotedList c.arguments ++ "' timed out after ".toList ++
    ofInt c.timeout ++ " seconds".toList

/-- Why a program that is missing gave nothing. -/
def missingReason : Text := "[Errno 2] No such file or directory: 'git'".toList

/-- The dialogue about the diff to `base`, in the directory `root`. -/
def fetch (root base : Text) : Dialogue Failure Text := do
  let branch := Call.gitDiff root (base ++ "...HEAD".toList)
  let direct := Call.gitDiff root base
  match ← Dialogue.ask branch with
  | .finished code output _ =>
    if code == 0 then return output
    else
      Dialogue.record [⟨.gitHub, .debug,
        "Three-dot diff against ".toList ++ base ++ " failed, diffing directly".toList⟩]
      match ← Dialogue.ask direct with
      | .finished _ output _ => return output
      | .timedOut =>
        Dialogue.record [failureNote base (timeoutReason direct)]
        return []
      | .notFound =>
        Dialogue.record [failureNote base missingReason]
        return []
      | .raised told => Dialogue.fail (.call told)
  | .timedOut =>
    Dialogue.record [failureNote base (timeoutReason branch)]
    return []
  | .notFound =>
    Dialogue.record [failureNote base missingReason]
    return []
  | .raised told => Dialogue.fail (.call told)

end LocalDiff

end PinGate
