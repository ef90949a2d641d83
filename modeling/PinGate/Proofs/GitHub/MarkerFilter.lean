-- The law of the filter by which the gate finds its own comments: a marker stays within the string
-- that is written for it, whatever characters it has. The string ends at its own closing quote and
-- says the marker, so no part of a marker is a part of the filter, and each marker has a filter of
-- its own.
import PinGate.Proofs.GitHub.Requests
import PinGate.Proofs.Json.AsciiString

namespace PinGate.GitHub

open Text Json Dialogue

namespace Request

/-- A filter that asks for comments which start with the text that a string says. -/
def filterBy (literal : Text) : Text :=
  ".[] | select(.body | startswith(".toList ++ literal ++ ")) | .id".toList

theorem markerFilter_eq (marker : Text) :
    markerFilter marker = filterBy (writeAsciiString marker) := rfl

theorem filterBy_injective : Function.Injective filterBy := by
  intro s t h
  exact List.append_cancel_left (List.append_cancel_right h)

theorem markerFilter_injective : Function.Injective markerFilter := by
  intro marker other h
  rw [markerFilter_eq, markerFilter_eq] at h
  have hliteral := filterBy_injective h
  have hsays := says_writeAsciiString marker
  rw [hliteral] at hsays
  exact hsays.unique (says_writeAsciiString other)

end Request

/-- Finding a comment is one call, whatever its answer is. -/
theorem Client.calls_findComment (client : Client) (pr : PullRequest) (marker : Text)
    (script : Script) : ((client.findComment pr marker).runScript script).calls =
      [.gitHub client pr (.comments marker)] := by
  have hr := Script.respond_eq (.gitHub client pr (.comments marker)) script
  cases ho : (script.answer 0).output? with
  | none =>
    have hask := client.ask_of_no_output pr (.comments marker) hr ho
    have hfailed : Ends Script.respond (client.findComment pr marker) script
        [.gitHub client pr (.comments marker)]
        (.error (client.failureOf (.comments marker) (script.answer 0))) script.tail :=
      hask.bind_error
    exact hfailed.calls_eq
  | some listing =>
    have hask := client.ask_of_output pr (.comments marker) hr ho
    have hfound : Ends Script.respond (client.findComment pr marker) script
        [.gitHub client pr (.comments marker)] (.ok (Client.firstId? listing)) script.tail :=
      hask.bind_ok (Ends.done _ _)
    exact hfound.calls_eq

/-- The comments with a marker are found by one call, and its filter holds one string of printing
ASCII, which says the marker. Behind the opening quote the string is read up to its end and no
further, whatever stands behind it. No two markers have the same filter. -/
theorem markers_stay_within_their_strings :
    (∀ (client : Client) (pr : PullRequest) (marker : Text) (script : Script), ∃ s,
      Says ('"' :: s) marker ∧
      (∀ r, readString? (s ++ r) = some (marker.map Char.toNat, r)) ∧
      ((client.findComment pr marker).runScript script).calls.map Call.arguments =
        [[client.binary, "api".toList, "--paginate".toList,
          "repos/".toList ++ pr.slug ++ "/issues/".toList ++ ofInt pr.number ++
            "/comments".toList,
          "--jq".toList,
          ".[] | select(.body | startswith(".toList ++ '"' :: s ++ ")) | .id".toList]]) ∧
    Function.Injective Request.markerFilter := by
  refine ⟨?_, Request.markerFilter_injective⟩
  intro client pr marker script
  have hsays := says_writeAsciiString marker
  obtain ⟨s, hs, hread⟩ := hsays.readString?
  refine ⟨s, hs ▸ hsays, hread, ?_⟩
  rw [client.calls_findComment, ← hs]
  rfl

/-- A marker that looks like the end of its string, with an escape and a picture behind it. -/
theorem hostile_markers_stay_within_their_strings :
    let marker := "\")) | halt # \\u0022 \\(env) 😀\n".toList
    (∃ s, Says ('"' :: s) marker ∧
      readString? (s ++ ")) | .id".toList) = some (marker.map Char.toNat, ")) | .id".toList)) ∧
    Request.markerFilter marker ≠ Request.markerFilter "\")) | halt # \" \\(env) 😀\n".toList := by
  intro marker
  obtain ⟨hfilter, hinjective⟩ := markers_stay_within_their_strings
  obtain ⟨s, hsays, hread, -⟩ := hfilter ⟨['t'], 30, "gh".toList⟩ ⟨['o'], ['r'], 1⟩ marker []
  exact ⟨⟨s, hsays, hread _⟩, hinjective.ne (by decide)⟩

end PinGate.GitHub
