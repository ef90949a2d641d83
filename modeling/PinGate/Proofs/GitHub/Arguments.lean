-- What the arguments of a request say. They are written out in full here, and read back: whoever
-- sees nothing but the arguments knows the request, its marker and its text included.
import PinGate.GitHub.Basic
import PinGate.Proofs.Json.AsciiString

namespace PinGate.GitHub

open Text

/-! ## The arguments in full -/

section

variable (pr : PullRequest)

/-- Where GitHub has a pull request. -/
def pullAddress : Text :=
  "repos/".toList ++ pr.owner ++ '/' :: pr.repo ++ "/pulls/".toList ++ ofInt pr.number

/-- Where it has the comments on one. -/
def commentsAddress : Text :=
  "repos/".toList ++ pr.owner ++ '/' :: pr.repo ++ "/issues/".toList ++ ofInt pr.number ++
    "/comments".toList

/-- Where it has the comment with an id. -/
def commentAddress (id : Text) : Text :=
  "repos/".toList ++ pr.owner ++ '/' :: pr.repo ++ "/issues/comments/".toList ++ id

theorem repository_eq :
    "repos/".toList ++ pr.owner ++ '/' :: pr.repo = "repos/".toList ++ pr.slug :=
  List.append_assoc _ _ _

end

namespace Request

variable (pr : PullRequest)

theorem arguments_diff : diff.arguments pr =
    ["-H".toList, "Accept: application/vnd.github.v3.diff".toList, pullAddress pr] := by
  unfold pullAddress
  rw [repository_eq, arguments]

theorem arguments_comments (marker : Text) : (comments marker).arguments pr =
    ["--paginate".toList, commentsAddress pr, "--jq".toList, markerFilter marker] := by
  unfold commentsAddress
  rw [repository_eq, arguments]

theorem arguments_create (body : Text) : (create body).arguments pr =
    ["--method".toList, "POST".toList, commentsAddress pr, "-f".toList,
      "body=".toList ++ body] := by
  unfold commentsAddress
  rw [repository_eq, arguments]

theorem arguments_update (id body : Text) : (update id body).arguments pr =
    ["--method".toList, "PATCH".toList, commentAddress pr id, "-f".toList,
      "body=".toList ++ body] := by
  unfold commentAddress
  rw [repository_eq, arguments]

/-! ## Reading them back -/

/-- What a filter says in front of the string with the marker. -/
def filterFront : Text := ".[] | select(.body | startswith(".toList

/-- What it says behind that string. -/
def filterBack : Text := ")) | .id".toList

/-- The marker that a filter asks for. -/
def readFilter? (filter : Text) : Option Text := do
  let literal ← dropPrefix? filterFront filter
  let s ← dropPrefix? ['"'] literal
  let (points, r) ← Json.readString? s
  if r = filterBack then some (points.map Char.ofNat) else none

/-- The request about a pull request that some arguments make. -/
def read? : List Text → Option Request
  | [flag, accepted, address] =>
    if flag = "-H".toList ∧ accepted = "Accept: application/vnd.github.v3.diff".toList ∧
        address = pullAddress pr then some .diff
    else none
  | [flag, address, query, filter] =>
    if flag = "--paginate".toList ∧ address = commentsAddress pr ∧ query = "--jq".toList then
      (readFilter? filter).map .comments
    else none
  | [flag, method, address, field, value] =>
    if flag = "--method".toList ∧ field = "-f".toList then do
      let body ← dropPrefix? "body=".toList value
      if method = "POST".toList ∧ address = commentsAddress pr then some (.create body)
      else if method = "PATCH".toList then
        (dropPrefix? (commentAddress pr []) address).map (.update · body)
      else none
    else none
  | _ => none

theorem readFilter?_markerFilter (marker : Text) :
    readFilter? (markerFilter marker) = some marker := by
  obtain ⟨s, hs, hread⟩ := (Json.says_writeAsciiString marker).readString?
  have hfilter : markerFilter marker = filterFront ++ (['"'] ++ (s ++ filterBack)) := by
    unfold markerFilter
    rw [hs, List.append_assoc]
    rfl
  have hpoints : (marker.map Char.toNat).map Char.ofNat = marker := by
    rw [List.map_map]
    exact (List.map_congr_left fun c _ => Char.ofNat_toNat c).trans (List.map_id marker)
  have hfront := dropPrefix?_eq_some_iff.2 hfilter
  have hquote : dropPrefix? ['"'] (['"'] ++ (s ++ filterBack)) = some (s ++ filterBack) :=
    dropPrefix?_eq_some_iff.2 rfl
  unfold readFilter?
  rw [hfront, Option.bind_eq_bind, Option.bind_some, hquote, Option.bind_eq_bind, Option.bind_some,
    hread, Option.bind_some]
  dsimp only
  rw [if_pos rfl, hpoints]

/-- Nothing of a request is lost in its arguments. -/
theorem read?_arguments (request : Request) : read? pr (request.arguments pr) = some request := by
  cases request with
  | diff =>
    rw [arguments_diff, read?, if_pos ⟨rfl, rfl, rfl⟩]
  | comments marker =>
    rw [arguments_comments, read?, if_pos ⟨rfl, rfl, rfl⟩, readFilter?_markerFilter]
    rfl
  | create body =>
    have hbody : dropPrefix? "body=".toList ("body=".toList ++ body) = some body :=
      dropPrefix?_eq_some_iff.2 rfl
    rw [arguments_create, read?, if_pos ⟨rfl, rfl⟩, hbody]
    exact if_pos ⟨rfl, rfl⟩
  | update id body =>
    have hbody : dropPrefix? "body=".toList ("body=".toList ++ body) = some body :=
      dropPrefix?_eq_some_iff.2 rfl
    have hid : dropPrefix? (commentAddress pr []) (commentAddress pr id) = some id :=
      dropPrefix?_eq_some_iff.2 (congrArg (· ++ id) (List.append_nil _).symm)
    have hmethod : "PATCH".toList ≠ "POST".toList := by decide
    rw [arguments_update, read?, if_pos ⟨rfl, rfl⟩, hbody, Option.bind_eq_bind, Option.bind_some,
      if_neg (fun h => hmethod h.1), if_pos rfl, hid]
    rfl

end Request

end PinGate.GitHub
