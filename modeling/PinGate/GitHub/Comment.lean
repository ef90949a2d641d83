-- The dialogues with GitHub: fetching the diff of a pull request, and keeping one comment on it
-- that starts with a marker.
import PinGate.Dialogue
import PinGate.Failure
import PinGate.Text.Lines

namespace PinGate.GitHub

open Text

namespace Client

/-- Failing with an error about a request. -/
def refuse {α : Type} (request : Request) (detail : Text) : Dialogue Failure α :=
  Dialogue.fail (.gitHub ⟨request.action, detail⟩)

/-- One request. It fails when the program does not end well, and gives its output otherwise. -/
def ask (client : Client) (pr : PullRequest) (request : Request) : Dialogue Failure Text := do
  match ← Dialogue.ask (.gitHub client pr request) with
  | .finished code output errors =>
    if code == 0 then return output
    else
      let told := trim errors
      refuse request (if told.isEmpty then "exit code ".toList ++ ofInt code else told)
  | .timedOut => refuse request ("timed out after ".toList ++ ofInt client.timeout ++ ['s'])
  | .notFound => refuse request ('\'' :: client.binary ++ "' executable not found".toList)
  | .raised told => Dialogue.fail (.call told)

/-- A record of the dialogue. -/
def note (message : Text) : Dialogue Failure Unit := Dialogue.record [⟨.gitHub, .info, message⟩]

/-- The number of a pull request, as records name it. -/
def numbered (pr : PullRequest) : Text := "PR #".toList ++ ofInt pr.number

/-- The diff of a pull request. -/
def fetchDiff (client : Client) (pr : PullRequest) : Dialogue Failure Text := do
  note ("Getting diff for ".toList ++ numbered pr)
  client.ask pr .diff

/-- The first id of a listing, which has one id on each line. -/
def firstId? (listing : Text) : Option Text :=
  ((pieces listing).map trim).find? fun id => !id.isEmpty && id != "null".toList

/-- The id of the first comment that starts with a marker. -/
def findComment (client : Client) (pr : PullRequest) (marker : Text) :
    Dialogue Failure (Option Text) := do
  return firstId? (← client.ask pr (.comments marker))

/-- Adding a comment. -/
def createComment (client : Client) (pr : PullRequest) (body : Text) : Dialogue Failure Unit := do
  let _ ← client.ask pr (.create body)

/-- Changing a comment. -/
def updateComment (client : Client) (pr : PullRequest) (id body : Text) :
    Dialogue Failure Unit := do
  let _ ← client.ask pr (.update id body)

/-- A comment's text with the marker on a line of its own in front. -/
def marked (marker body : Text) : Text := marker ++ '\n' :: body

/-- Making `body` the text of the one comment with the marker: the first that there is, or a new
one. -/
def upsertComment (client : Client) (pr : PullRequest) (body marker : Text) :
    Dialogue Failure Unit := do
  match ← client.findComment pr marker with
  | some id =>
    note ("Updating existing comment ".toList ++ id ++ " on ".toList ++ numbered pr)
    client.updateComment pr id (marked marker body)
  | none =>
    note ("Creating comment on ".toList ++ numbered pr)
    client.createComment pr (marked marker body)

end Client

end PinGate.GitHub
