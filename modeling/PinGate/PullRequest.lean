-- The pull request that a run is about, and how the event that started the run names it. The
-- number and the repository are looked for in the event, and the repository, owner and name
-- together, in a text given beside it. What is found goes through a check of records that is not
-- the gate's own work.
import PinGate.Fields
import PinGate.Json.Reader
import PinGate.Workspace

namespace PinGate

open Text Json

/-- A pull request on GitHub. -/
structure PullRequest where
  owner : Text
  repo : Text
  number : Int
  deriving Repr, DecidableEq

namespace PullRequest

/-- Owner and name of the repository, joined by a slash. -/
def slug (pr : PullRequest) : Text := pr.owner ++ '/' :: pr.repo

/-- The pull request that a record describes, or everything that is wrong with the record. -/
def ofFields (fields : Fields) : Except (List FieldFault) PullRequest :=
  match fields.required "owner".toList Fields.toText, fields.required "repo".toList Fields.toText,
    fields.required "number".toList Fields.toInteger with
  | .ok owner, .ok repo, .ok number => .ok ⟨owner, repo, number⟩
  | owner, repo, number =>
    .error (Fields.faultOf owner ++ Fields.faultOf repo ++ Fields.faultOf number)

/-- The record of a pull request. -/
def record (owner repo : Value) (number : Int) : Fields :=
  [("owner".toList, owner), ("repo".toList, repo), ("number".toList, .int number)]

end PullRequest

/-! ## Records -/

/-- What is wrong with a record, field by field, and how that is told. -/
structure RecordError where
  faults : List FieldFault
  told : Text
  deriving Repr, DecidableEq

/-- A package that checks records, as far as the gate relies on it: an owner and a name that are
texts, and a whole number, describe a pull request, and no other owner or name does. A string with
an unpaired surrogate is no text here. -/
structure RecordCheck where
  pullRequest : Fields → Except RecordError PullRequest
  takes_texts : ∀ owner repo number,
    pullRequest (PullRequest.record (.string owner) (.string repo) number) =
      .ok ⟨owner, repo, number⟩
  takes_texts_only : ∀ {owner repo number pr},
    pullRequest (PullRequest.record owner repo number) = .ok pr →
      owner = .string pr.owner ∧ repo = .string pr.repo

namespace RecordCheck

theorem eq_string_of_toText {v : Value} {s : Text} {name : Text}
    (h : (Fields.toText v).mapError (FieldFault.mk name) = .ok s) : v = .string s := by
  cases v with
  | string t => exact congrArg Value.string (Except.ok.inj h)
  | _ => cases h

/-- The check by the fields of this project. Of what the package tells, it knows the first line. -/
def standard : RecordCheck where
  pullRequest fields := (PullRequest.ofFields fields).mapError fun faults =>
    { faults
      told := ofNat faults.length ++ " validation error".toList ++
        (if faults.length = 1 then [] else ['s']) ++ " for PullRequestRef".toList }
  takes_texts := fun _ _ _ => rfl
  takes_texts_only := by
    intro owner repo number pr h
    unfold PullRequest.ofFields at h
    split at h
    · next o r n ho hr hn =>
      cases h
      exact ⟨eq_string_of_toText ho, eq_string_of_toText hr⟩
    · cases h

end RecordCheck

/-! ## Events -/

namespace Event

/-- Why an event names no pull request. -/
inductive Error where
  /-- There is no file at the path. -/
  | notFound (path : Option Text)
  /-- The file cannot be read. -/
  | unreadable (fault : FileFault)
  /-- The file is no JSON document. -/
  | notJson (path : Text) (flaw : Flaw) (place : Place)
  /-- A number has too many digits. -/
  | numberTooLong (fault : TooLong)
  /-- A value that should have members is of this kind. -/
  | noMembers (kind : Kind)
  | noNumber
  | noRepository
  /-- The number is a text that writes none, here in its quoted form. -/
  | numberMalformed (quotedForm : Text)
  /-- The number is of this kind. -/
  | numberKind (kind : Kind)
  | numberNaN
  | numberInfinite
  /-- What was found is no pull request. -/
  | fields (e : RecordError)
  deriving Repr, DecidableEq

/-- The name of a kind, as it is told. -/
def kindName : Kind → Text
  | .null => "NoneType".toList
  | .bool => "bool".toList
  | .int => "int".toList
  | .real => "float".toList
  | .string => "str".toList
  | .array => "list".toList
  | .object => "dict".toList

/-- The error as it is told. -/
def Error.message : Error → Text
  | notFound path =>
    "Event payload not found at ".toList ++ (path.map quoted).getD "None".toList ++
      ". pinlint must run on a pull_request event.".toList
  | unreadable fault => fault.message
  | notJson path flaw place =>
    "Event payload at ".toList ++ path ++ " is not valid JSON: ".toList ++ flaw.tell place
  | numberTooLong fault => fault.message
  | noMembers kind => '\'' :: kindName kind ++ "' object has no attribute 'get'".toList
  | noNumber => "Event payload has no pull request number".toList
  | noRepository => "Event payload has no repository owner and name".toList
  | numberMalformed quotedForm => malformedMessage quotedForm
  | numberKind kind =>
    "int() argument must be a string, a bytes-like object or a real number, not '".toList ++
      kindName kind ++ ['\'']
  | numberNaN => "cannot convert float NaN to integer".toList
  | numberInfinite => "cannot convert float infinity to integer".toList
  | fields e => e.told

/-- The value of a member of an event; null when it is missing. -/
def member (name : String) : Value → Except Error Value
  | .object members => .ok (lookUp name.toList members)
  | v => .error (.noMembers v.kind)

/-- The value of a member of a part that may be absent. A value that does not count as present
is a part without members. -/
def memberOf (name : String) (part : Value) : Except Error Value :=
  if part.isPresent then member name part else .ok .null

/-- A value as the number of a pull request; what is behind the point of a number is cut off. -/
def toNumber : Value → Except Error Int
  | .int n => .ok n
  | .bool b => .ok (if b then 1 else 0)
  | .real .nan => .error .numberNaN
  | .real (.infinite _) => .error .numberInfinite
  | .real (.finite negative m e) =>
    .ok (if negative then -(Binary64.scaled m e : Int) else Binary64.scaled m e)
  | .string s =>
    match Text.toInteger s with
    | .ok n => .ok n
    | .error (.tooLong fault) => .error (.numberTooLong fault)
    | .error .malformed => .error (.numberMalformed (quoted s))
  | .unpaired points =>
    match Text.toInteger (textOf points) with
    | .error (.tooLong fault) => .error (.numberTooLong fault)
    | _ => .error (.numberMalformed (quotedPoints points))
  | v => .error (.numberKind v.kind)

/-- The owner and the name of a repository, of which both have to be present. -/
def repositoryOf (event : Value) (fallback : Option Text) : Except Error (Value × Value) := do
  let repository ← member "repository" event
  let owner ← memberOf "login" (← memberOf "owner" repository)
  let name ← memberOf "name" repository
  if owner.isPresent && name.isPresent then return (owner, name)
  else
    match fallback.bind (splitOnce? '/') with
    | some (owner, name) =>
      if owner.isEmpty || name.isEmpty then .error .noRepository
      else return (.string owner, .string name)
    | none => .error .noRepository

/-- The number that an event gives, itself or in the part about the pull request. -/
def numberOf (event : Value) : Except Error Value := do
  let number ← member "number" event
  let number ← if number.isPresent then pure number
    else memberOf "number" (← member "pull_request" event)
  if number.isPresent then return number else .error .noNumber

/-- The pull request that an event names. -/
def pullRequest (records : RecordCheck) (event : Value) (fallback : Option Text) :
    Except Error PullRequest := do
  let number ← numberOf event
  let (owner, name) ← repositoryOf event fallback
  let number ← toNumber number
  (records.pullRequest (PullRequest.record owner name number)).mapError .fields

/-- The document at the path that the surroundings give. -/
def document (w : Workspace) (path : Option Text) : Except Error Value :=
  match path with
  | none => .error (.notFound none)
  | some path =>
    if path.isEmpty then .error (.notFound (some path))
    else
      match w.lookUp path with
      | .missing => .error (.notFound (some path))
      | .unnameable => .error (.notFound (some path))
      | .nameTooLong => .error (.unreadable (.nameTooLong (plainPath path)))
      | .directory => .error (.unreadable (.isDirectory (plainPath path)))
      | .file content => do
        let s ← (ofBytes content).mapError fun fault => .unreadable (.encoding fault)
        match Json.read s with
        | .ok event => return event
        | .error (.malformed flaw rest) => .error (.notJson path flaw (placeOf s rest))
        | .error (.number fault) => .error (.numberTooLong fault)

/-- The pull request of the event at a path. -/
def load (records : RecordCheck) (w : Workspace) (path fallback : Option Text) :
    Except Error PullRequest := do
  pullRequest records (← document w path) fallback

end Event

end PinGate
