-- What the gate asks of GitHub, and through whom: a client stands for the program that is called,
-- with its token and its patience.
import PinGate.Json.Literal
import PinGate.PullRequest

namespace PinGate.GitHub

open Text

/-- The program that talks to GitHub, the token it uses, and the seconds it may take. -/
structure Client where
  token : Text
  timeout : Int := 30
  binary : Text := "gh".toList
  deriving Repr, DecidableEq

/-- What can be asked about a pull request. -/
inductive Request where
  /-- Its diff. -/
  | diff
  /-- The ids of its comments that start with a marker. -/
  | comments (marker : Text)
  /-- One more comment. -/
  | create (body : Text)
  /-- A new text for one of its comments. -/
  | update (id body : Text)
  deriving Repr, DecidableEq

namespace Request

/-- The filter that picks the ids of the comments that start with a marker. -/
def markerFilter (marker : Text) : Text :=
  ".[] | select(.body | startswith(".toList ++ Json.writeAsciiString marker ++ ")) | .id".toList

/-- The request in words, as an error names it. -/
def action : Request → Text
  | diff => "fetch the pull request diff".toList
  | comments _ => "list pull request comments".toList
  | create _ => "create a pull request comment".toList
  | update _ _ => "update a pull request comment".toList

/-- The arguments of the request. -/
def arguments (pr : PullRequest) : Request → List Text
  | diff =>
    ["-H".toList, "Accept: application/vnd.github.v3.diff".toList,
      "repos/".toList ++ pr.slug ++ "/pulls/".toList ++ ofInt pr.number]
  | comments marker =>
    ["--paginate".toList,
      "repos/".toList ++ pr.slug ++ "/issues/".toList ++ ofInt pr.number ++ "/comments".toList,
      "--jq".toList, markerFilter marker]
  | create body =>
    ["--method".toList, "POST".toList,
      "repos/".toList ++ pr.slug ++ "/issues/".toList ++ ofInt pr.number ++ "/comments".toList,
      "-f".toList, "body=".toList ++ body]
  | update id body =>
    ["--method".toList, "PATCH".toList,
      "repos/".toList ++ pr.slug ++ "/issues/comments/".toList ++ id,
      "-f".toList, "body=".toList ++ body]

end Request

/-- A request that failed, and what is known about the reason. -/
structure Error where
  action : Text
  detail : Text
  deriving Repr, DecidableEq

/-- The error as it is told. -/
def Error.message (e : Error) : Text :=
  let what := "GitHub API call failed while trying to ".toList ++ e.action
  if e.detail.isEmpty then what else what ++ ": ".toList ++ e.detail

end PinGate.GitHub
