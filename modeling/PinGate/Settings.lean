-- The settings of a run. They come from the environment of the runner, or from a record that
-- gives them outright.
import PinGate.Fields
import PinGate.Text.Quoted

namespace PinGate

open Text

/-- The variables of an environment. -/
abbrev Environment := List (Text × Text)

namespace Environment

/-- The value of a variable. -/
def get? (env : Environment) (name : String) : Option Text :=
  (env.find? fun v => v.1 == name.toList).map Prod.snd

/-- The value of a variable that is set to something. -/
def nonempty? (env : Environment) (name : String) : Option Text :=
  (env.get? name).filter (!·.isEmpty)

end Environment

/-- What a run needs to know. -/
structure Settings where
  token : Text
  eventPath : Option Text := none
  /-- Owner and name of the repository, joined by a slash. -/
  repository : Option Text := none
  /-- What the gate's own comment starts with. -/
  marker : Text := "<!-- pinlint -->".toList
  /-- The seconds that a call may take. -/
  timeout : Int := 30
  debug : Bool := false
  deriving Repr, DecidableEq

namespace Settings

/-- Why there are no settings. -/
inductive Error where
  | noToken
  /-- The timeout is no whole number. -/
  | badTimeout (value : Text)
  deriving Repr, DecidableEq

/-- The error as it is told. -/
def Error.message : Error → Text
  | noToken =>
    ("No GitHub token found. Pass the GITHUB_TOKEN input to the action " ++
      "or set the GITHUB_TOKEN environment variable.").toList
  | badTimeout value => "PINLINT_GH_TIMEOUT must be an integer, got ".toList ++ quoted value

/-- Whether a text says yes, in any case and with blanks around. -/
def saysYes (value : Text) : Bool :=
  ["1".toList, "true".toList, "yes".toList, "on".toList].contains ((trim value).map Char.toLower)

/-- Whether the runner asks for a full journal. -/
def runnerDebug (env : Environment) : Bool := ((env.get? "RUNNER_DEBUG").map saysYes).getD false

/-- The token of a run: one that is given outright, the action's input, or the runner's own. -/
def tokenOf (env : Environment) (given : Option Text) : Option Text :=
  (given.filter (!·.isEmpty)).or
    ((env.nonempty? "INPUT_GITHUB_TOKEN").or (env.nonempty? "GITHUB_TOKEN"))

/-- The settings that an environment gives. A missing token is told before a bad timeout. Behind
that no check of records has anything to object to: all values are texts, but for the timeout, which
has been read as a number. -/
def ofEnvironment (env : Environment) (givenToken : Option Text) : Except Error Settings :=
  match tokenOf env givenToken with
  | none => .error .noToken
  | some token =>
    let value := (env.get? "PINLINT_GH_TIMEOUT").getD "30".toList
    match toInteger value with
    | .error _ => .error (.badTimeout value)
    | .ok timeout =>
      .ok {
        token
        eventPath := env.nonempty? "GITHUB_EVENT_PATH"
        repository := env.nonempty? "GITHUB_REPOSITORY"
        timeout
        debug := runnerDebug env }

/-- A token as a record gives it. -/
def toToken (v : Json.Value) : Except FieldFlaw Text :=
  match Fields.toText v with
  | .ok [] => .error .tooShort
  | r => r

/-- The settings that a record gives, or everything that is wrong with it. -/
def ofFields (fields : Fields) : Except (List FieldFault) Settings :=
  let token := fields.required "token".toList toToken
  let eventPath := fields.optional "event_path".toList none Fields.toText?
  let repository := fields.optional "repository".toList none Fields.toText?
  let marker := fields.optional "comment_marker".toList "<!-- pinlint -->".toList Fields.toText
  let timeout := fields.optional "gh_timeout".toList 30 Fields.toInteger
  match token, eventPath, repository, marker, timeout with
  | .ok token, .ok eventPath, .ok repository, .ok marker, .ok timeout =>
    .ok { token, eventPath, repository, marker, timeout }
  | _, _, _, _, _ =>
    .error (Fields.faultOf token ++ Fields.faultOf eventPath ++ Fields.faultOf repository ++
      Fields.faultOf marker ++ Fields.faultOf timeout)

end Settings

end PinGate
