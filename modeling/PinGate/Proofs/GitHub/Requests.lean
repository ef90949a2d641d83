-- The laws of requests to GitHub, whoever answers: a request is one call, its answer is either an
-- output or ends the request with a failure that names it, and of the two requests that keep a
-- comment the second is made only when the first is answered well.
import PinGate.GitHub.Comment
import PinGate.Proofs.Dialogue
import PinGate.Proofs.GitHub.Arguments

namespace PinGate

/-- What a call that ended well gives. -/
def Outcome.output? : Outcome → Option Text
  | finished code output _ => if code = 0 then some output else none
  | _ => none

namespace GitHub

open Text Dialogue

namespace Client

variable {σ : Type} {respond : Call → σ → Outcome × σ} {s t : σ} {o : Outcome}

/-- A request that is answered well gives the output of the answer. -/
theorem ask_of_output (client : Client) (pr : PullRequest) (request : Request) {output : Text}
    (hr : respond (.gitHub client pr request) s = (o, t)) (ho : o.output? = some output) :
    Ends respond (client.ask pr request) s [.gitHub client pr request] (.ok output) t := by
  refine Ends.behind_ask hr ?_
  cases o with
  | finished code out errors =>
    by_cases hcode : code = 0
    · obtain rfl : out = output := by simpa [Outcome.output?, hcode] using ho
      simp only [hcode]
      exact Ends.done _ t
    · simp [Outcome.output?, hcode] at ho
  | timedOut => cases ho
  | notFound => cases ho
  | raised told => cases ho

/-- What a request fails with when this is its answer and the answer is no good. -/
def failureOf (client : Client) (request : Request) : Outcome → Failure
  | .finished code _ errors =>
    .gitHub ⟨request.action,
      if (trim errors).isEmpty then "exit code ".toList ++ ofInt code else trim errors⟩
  | .timedOut =>
    .gitHub ⟨request.action, "timed out after ".toList ++ ofInt client.timeout ++ ['s']⟩
  | .notFound => .gitHub ⟨request.action, '\'' :: client.binary ++ "' executable not found".toList⟩
  | .raised told => .call told

/-- It is an error about the request, unless the call broke in another way. -/
theorem failureOf_cases (client : Client) (request : Request) (o : Outcome) :
    (∃ e, client.failureOf request o = .gitHub e ∧ e.action = request.action) ∨
      ∃ told, o = .raised told ∧ client.failureOf request o = .call told := by
  cases o with
  | finished code output errors => exact .inl ⟨_, rfl, rfl⟩
  | timedOut => exact .inl ⟨_, rfl, rfl⟩
  | notFound => exact .inl ⟨_, rfl, rfl⟩
  | raised told => exact .inr ⟨told, rfl, rfl⟩

/-- A request that is not answered well fails, and says nothing more. -/
theorem ask_of_no_output (client : Client) (pr : PullRequest) (request : Request)
    (hr : respond (.gitHub client pr request) s = (o, t)) (ho : o.output? = none) :
    Ends respond (client.ask pr request) s [.gitHub client pr request]
      (.error (client.failureOf request o)) t := by
  refine Ends.behind_ask hr ?_
  cases o with
  | finished code out errors =>
    have hcode : ¬ code = 0 := by
      intro hcode
      simp [Outcome.output?, hcode] at ho
    simp only [beq_iff_eq, hcode, if_false]
    exact Ends.done _ t
  | timedOut => exact Ends.done _ t
  | notFound => exact Ends.done _ t
  | raised told => exact Ends.done _ t

/-- Fetching a diff is one request. -/
theorem fetchDiff_of_ask {client : Client} {pr : PullRequest} {cs : List Call}
    {r : Except Failure Text} (h : Ends respond (client.ask pr .diff) s cs r t) :
    Ends respond (client.fetchDiff pr) s cs r t :=
  Ends.behind_record _ h

/-! ## One comment -/

/-- The request that makes `body` the text of the comment with the marker, once the comments are
listed: a change of the first one, or one more comment. -/
def writeRequest (marker body listing : Text) : Request :=
  match firstId? listing with
  | some id => .update id (marked marker body)
  | none => .create (marked marker body)

theorem arguments_writeRequest (pr : PullRequest) (marker body listing : Text) :
    (writeRequest marker body listing).arguments pr = "--method".toList ::
      (match firstId? listing with
        | some id => ["PATCH".toList, commentAddress pr id]
        | none => ["POST".toList, commentsAddress pr]) ++
      ["-f".toList, "body=".toList ++ marker ++ '\n' :: body] := by
  unfold writeRequest
  cases firstId? listing with
  | some id =>
    rw [Request.arguments_update, marked, ← List.append_assoc]
    rfl
  | none =>
    rw [Request.arguments_create, marked, ← List.append_assoc]
    rfl

theorem upsertComment_of_no_output (client : Client) (pr : PullRequest) (body marker : Text)
    (hr : respond (.gitHub client pr (.comments marker)) s = (o, t)) (ho : o.output? = none) :
    Ends respond (client.upsertComment pr body marker) s [.gitHub client pr (.comments marker)]
      (.error (client.failureOf (.comments marker) o)) t :=
  (ask_of_no_output client pr (.comments marker) hr ho).bind_error.bind_error

theorem upsertComment_of_output (client : Client) (pr : PullRequest) (body marker : Text)
    {listing : Text} (hr : respond (.gitHub client pr (.comments marker)) s = (o, t))
    (ho : o.output? = some listing) {cs : List Call} {r : Except Failure Text} {u : σ}
    (hw : Ends respond (client.ask pr (writeRequest marker body listing)) t cs r u) :
    Ends respond (client.upsertComment pr body marker) s
      (.gitHub client pr (.comments marker) :: cs) (r.map fun _ => ()) u := by
  have hfound : Ends respond (client.findComment pr marker) s
      [.gitHub client pr (.comments marker)] (.ok (firstId? listing)) t :=
    (ask_of_output client pr (.comments marker) hr ho).bind_ok (Ends.done _ t)
  refine hfound.bind_ok ?_
  unfold writeRequest at hw
  cases hid : firstId? listing with
  | some id =>
    rw [hid] at hw
    exact Ends.behind_record _ (hw.discard ())
  | none =>
    rw [hid] at hw
    exact Ends.behind_record _ (hw.discard ())

end Client

end GitHub

end PinGate
