-- The protocol of a check. Whatever the event, the settings and the answers are, a check fetches
-- the diff, lists the comments when there are objections, and writes one comment when they are
-- listed; any call that is not answered well is the last one. First all courses that a check can
-- take are told one by one, and then the laws are read off them.
import PinGate.Proofs.GitHub.Requests
import PinGate.Validation

namespace PinGate.Validation

open Text Dialogue

/-! ## The courses of a check -/

/-- An answer that gives a diff to object to: it is not empty, can be read, and meets these
objections, at least one. -/
structure MeetsObjections (o : Outcome) (issues : List Finding) : Prop where
  reads : ∃ diff files, o.output? = some diff ∧ diff ≠ [] ∧ Diff.read diff = .ok files ∧
    analyzeFiles files = issues
  some_issue : issues ≠ []

/-- An answer that gives a diff that nothing is to be said against: it is empty, or can be read and
meets no objections. -/
def IsClear (o : Outcome) : Prop :=
  ∃ diff, o.output? = some diff ∧
    (diff = [] ∨ ∃ files, Diff.read diff = .ok files ∧ analyzeFiles files = [])

section

variable (settings : Settings) (client : GitHub.Client) (pr : PullRequest) (script : Script)

/-- The call that fetches the diff. -/
def fetchCall : Call := .gitHub client pr .diff

/-- The call that lists the comments. -/
def listCall : Call := .gitHub client pr (.comments settings.marker)

/-- The request that writes the report on some objections, once the comments are listed. -/
def writeRequest (issues : List Finding) (listing : Text) : GitHub.Request :=
  GitHub.Client.writeRequest settings.marker (report issues) listing

/-- The call that makes it. -/
def writeCall (issues : List Finding) (listing : Text) : Call :=
  .gitHub client pr (writeRequest settings issues listing)

/-- The calls of a check of `pr` and its result, as the answers of the script decide them. -/
inductive Course : List Call → Except Failure Verdict → Prop where
  | notFetched (hdiff : (script.answer 0).output? = none) :
    Course [fetchCall client pr] (.error (client.failureOf .diff (script.answer 0)))
  | unreadable {diff : Text} {e : Diff.Error} (hdiff : (script.answer 0).output? = some diff)
    (hne : diff ≠ []) (hread : Diff.read diff = .error e) :
    Course [fetchCall client pr] (.error (.diff e))
  | clear (hdiff : IsClear (script.answer 0)) : Course [fetchCall client pr] (.ok { pr })
  | notListed {issues : List Finding} (hdiff : MeetsObjections (script.answer 0) issues)
    (hlist : (script.answer 1).output? = none) :
    Course [fetchCall client pr, listCall settings client pr]
      (.error (client.failureOf (.comments settings.marker) (script.answer 1)))
  | notWritten {issues : List Finding} {listing : Text}
    (hdiff : MeetsObjections (script.answer 0) issues)
    (hlist : (script.answer 1).output? = some listing)
    (hwrite : (script.answer 2).output? = none) :
    Course [fetchCall client pr, listCall settings client pr,
      writeCall settings client pr issues listing]
      (.error (client.failureOf (writeRequest settings issues listing) (script.answer 2)))
  | written {issues : List Finding} {listing : Text}
    (hdiff : MeetsObjections (script.answer 0) issues)
    (hlist : (script.answer 1).output? = some listing)
    (hwrite : ((script.answer 2).output?).isSome) :
    Course [fetchCall client pr, listCall settings client pr,
      writeCall settings client pr issues listing]
      (.ok { pr, issues, comment := report issues, posted := true })

end

variable {records : RecordCheck} {settings : Settings} {client : GitHub.Client} {pr : PullRequest}
  {script : Script}

/-! ## Every check takes one of these courses -/

variable {σ : Type} {respond : Call → σ → Outcome × σ}

theorem inspect_of_error {diff : Text} {e : Diff.Error} (h : Diff.read diff = .error e) (s : σ) :
    Ends respond (inspect diff) s [] (.error (.diff e)) s := by
  refine Ends.behind_record _ (Ends.bind_error ?_)
  rw [h]
  exact Ends.done _ s

theorem inspect_of_ok {diff : Text} {files : List Diff.ChangedFile} (h : Diff.read diff = .ok files)
    (s : σ) : Ends respond (inspect diff) s [] (.ok (analyzeFiles files)) s := by
  have hfiles : Ends respond (ofExcept ((Diff.read diff).mapError Failure.diff)) s []
      (.ok files) s := by
    rw [h]
    exact Ends.done _ s
  exact Ends.behind_record _ (hfiles.bind_ok (Ends.behind_record _ (Ends.done _ s)))

theorem judge_of_clear {o : Outcome} {diff : Text} (ho : o.output? = some diff) (h : IsClear o)
    (s : σ) : Ends respond (judge settings client pr diff) s [] (.ok { pr }) s := by
  obtain ⟨_, ho', hclear⟩ := h
  obtain rfl := Option.some.inj (ho'.symm.trans ho)
  unfold judge
  split
  · exact Ends.behind_record _ (Ends.done _ s)
  · rename_i hne
    obtain ⟨files, hread, hnone⟩ := hclear.resolve_left (by simpa using hne)
    refine (inspect_of_ok hread s).bind_ok ?_
    rw [hnone]
    exact Ends.behind_record _ (Ends.done _ s)

theorem judge_of_error {diff : Text} {e : Diff.Error} (hne : diff ≠ [])
    (hread : Diff.read diff = .error e) (s : σ) :
    Ends respond (judge settings client pr diff) s [] (.error (.diff e)) s := by
  unfold judge
  rw [if_neg (by simpa using hne)]
  exact (inspect_of_error hread s).bind_error

/-- When there are objections, a check ends as keeping its comment does. -/
theorem judge_of_objections {o : Outcome} {diff : Text} {issues : List Finding}
    (ho : o.output? = some diff) (h : MeetsObjections o issues) {s t : σ} {cs : List Call}
    {r : Except Failure Unit}
    (hw : Ends respond (client.upsertComment pr (report issues) settings.marker) s cs r t) :
    Ends respond (judge settings client pr diff) s cs
      (r.map fun _ => { pr, issues, comment := report issues, posted := true }) t := by
  obtain ⟨⟨_, files, ho', hne, hread, rfl⟩, hsome⟩ := h
  obtain rfl := Option.some.inj (ho'.symm.trans ho)
  unfold judge
  rw [if_neg (by simpa using hne)]
  refine (inspect_of_ok hread s).bind_ok ?_
  rw [if_neg (by simpa using hsome)]
  exact hw.discard _

/-- Once the event is loaded, a check fetches the diff and goes on with it. -/
theorem run_of_output {w : Workspace}
    (hpr : Event.load records w settings.eventPath settings.repository = .ok pr) {o : Outcome}
    {diff : Text} {s t u : σ} (hr : respond (fetchCall client pr) s = (o, t))
    (ho : o.output? = some diff) {cs : List Call} {r : Except Failure Verdict}
    (hjudge : Ends respond (judge settings client pr diff) t cs r u) :
    Ends respond (run records w settings client) s (fetchCall client pr :: cs) r u := by
  have hfetch := GitHub.Client.fetchDiff_of_ask (client.ask_of_output pr .diff hr ho)
  unfold run
  rw [hpr]
  exact (Ends.done (.ok pr) s).bind_ok (Ends.behind_record _ (hfetch.bind_ok hjudge))

theorem run_of_no_output {w : Workspace}
    (hpr : Event.load records w settings.eventPath settings.repository = .ok pr) {o : Outcome}
    {s t : σ} (hr : respond (fetchCall client pr) s = (o, t)) (ho : o.output? = none) :
    Ends respond (run records w settings client) s [fetchCall client pr]
      (.error (client.failureOf .diff o)) t := by
  have hfetch := GitHub.Client.fetchDiff_of_ask (client.ask_of_no_output pr .diff hr ho)
  unfold run
  rw [hpr]
  exact (Ends.done (.ok pr) s).bind_ok (Ends.behind_record _ hfetch.bind_error)

theorem run_of_event_error {w : Workspace} {e : Event.Error}
    (hpr : Event.load records w settings.eventPath settings.repository = .error e) (s : σ) :
    Ends respond (run records w settings client) s [] (.error (.event e)) s := by
  unfold run
  rw [hpr]
  exact (Ends.done _ s).bind_error

theorem course_of_ends {w : Workspace} {cs : List Call} {r : Except Failure Verdict} {rest : Script}
    (hend : Ends Script.respond (run records w settings client) script cs r rest)
    (h : Course settings client pr script cs r) :
    Course settings client pr script ((run records w settings client).runScript script).calls
      ((run records w settings client).runScript script).result := by
  obtain ⟨rfl, rfl, -⟩ := hend
  exact h

/-- With objections the comments are listed, and the comment is written if they are. -/
theorem run_takes_a_course_of_objections {w : Workspace}
    (hpr : Event.load records w settings.eventPath settings.repository = .ok pr) {diff : Text}
    {issues : List Finding} (hdiff : (script.answer 0).output? = some diff)
    (hmeets : MeetsObjections (script.answer 0) issues) :
    Course settings client pr script ((run records w settings client).runScript script).calls
      ((run records w settings client).runScript script).result := by
  have hfetch := Script.respond_eq (fetchCall client pr) script
  have hlist : Script.respond (listCall settings client pr) script.tail =
      (script.answer 1, script.tail.tail) := by
    rw [Script.respond_eq, Script.answer_tail]
  cases hlisted : (script.answer 1).output? with
  | none =>
    have hkept := client.upsertComment_of_no_output pr (report issues) settings.marker hlist hlisted
    exact course_of_ends (run_of_output hpr hfetch hdiff (judge_of_objections hdiff hmeets hkept))
      (.notListed hmeets hlisted)
  | some listing =>
    let write := writeCall settings client pr issues listing
    have hwrite : Script.respond write script.tail.tail =
        (script.answer 2, script.tail.tail.tail) := by
      rw [Script.respond_eq, Script.answer_tail, Script.answer_tail]
    cases hwritten : (script.answer 2).output? with
    | none =>
      have hask := client.ask_of_no_output pr _ hwrite hwritten
      have hkept := client.upsertComment_of_output pr _ _ hlist hlisted hask
      exact course_of_ends (run_of_output hpr hfetch hdiff (judge_of_objections hdiff hmeets hkept))
        (.notWritten hmeets hlisted hwritten)
    | some output =>
      have hask := client.ask_of_output pr _ hwrite hwritten
      have hkept := client.upsertComment_of_output pr _ _ hlist hlisted hask
      exact course_of_ends (run_of_output hpr hfetch hdiff (judge_of_objections hdiff hmeets hkept))
        (.written hmeets hlisted (by rw [hwritten]; rfl))

/-- A check takes one of the courses. -/
theorem run_takes_a_course {w : Workspace}
    (hpr : Event.load records w settings.eventPath settings.repository = .ok pr) (script : Script) :
    Course settings client pr script ((run records w settings client).runScript script).calls
      ((run records w settings client).runScript script).result := by
  have hfetch := Script.respond_eq (fetchCall client pr) script
  cases hdiff : (script.answer 0).output? with
  | none =>
    exact course_of_ends (run_of_no_output hpr hfetch hdiff) (.notFetched hdiff)
  | some diff =>
    -- A clear diff comes before the reading of one, because an empty diff is not read.
    by_cases hclear : IsClear (script.answer 0)
    · exact course_of_ends (run_of_output hpr hfetch hdiff (judge_of_clear hdiff hclear _))
        (.clear hclear)
    have hne : diff ≠ [] := by
      rintro rfl
      exact hclear ⟨[], hdiff, .inl rfl⟩
    cases hread : Diff.read diff with
    | error e =>
      exact course_of_ends (run_of_output hpr hfetch hdiff (judge_of_error hne hread _))
        (.unreadable hdiff hne hread)
    | ok files =>
      refine run_takes_a_course_of_objections hpr hdiff ⟨⟨diff, files, hdiff, hne, hread, rfl⟩, ?_⟩
      intro hnone
      exact hclear ⟨diff, hdiff, .inr ⟨files, hread, hnone⟩⟩

/-! ## The protocol -/

/-- Whether a call writes a comment. -/
def isWrite : Call → Bool
  | .gitHub _ _ (.create _) => true
  | .gitHub _ _ (.update _ _) => true
  | _ => false

/-- What a check of `pr` with the answers of a script keeps to, as its transcript shows. -/
structure KeepsProtocol (settings : Settings) (client : GitHub.Client) (pr : PullRequest)
    (script : Script) (t : Transcript Script Failure Verdict) : Prop where
  in_order : ∃ issues listing, t.calls <+:
    [fetchCall client pr, listCall settings client pr, writeCall settings client pr issues listing]
  fetches : fetchCall client pr ∈ t.calls
  lists_iff : listCall settings client pr ∈ t.calls ↔
    ∃ issues, MeetsObjections (script.answer 0) issues
  writes_iff : (∃ c ∈ t.calls, isWrite c = true) ↔
    (∃ issues, MeetsObjections (script.answer 0) issues) ∧ ((script.answer 1).output?).isSome
  writes_once : t.calls.countP isWrite ≤ 1
  fetches_diff : ∀ c, t.calls[0]? = some c → c.arguments =
    [client.binary, "api".toList, "-H".toList, "Accept: application/vnd.github.v3.diff".toList,
      GitHub.pullAddress pr]
  lists_comments : ∀ c, t.calls[1]? = some c → c.arguments =
    [client.binary, "api".toList, "--paginate".toList, GitHub.commentsAddress pr, "--jq".toList,
      ".[] | select(.body | startswith(".toList ++ Json.writeAsciiString settings.marker ++
        ")) | .id".toList]
  writes_report : ∀ c, t.calls[2]? = some c ∨ c ∈ t.calls ∧ isWrite c = true →
    ∃ issues listing, MeetsObjections (script.answer 0) issues ∧
      (script.answer 1).output? = some listing ∧
      c = writeCall settings client pr issues listing ∧
      c.arguments = client.binary :: "api".toList :: "--method".toList ::
        (match GitHub.Client.firstId? listing with
          | some id => ["PATCH".toList, GitHub.commentAddress pr id]
          | none => ["POST".toList, GitHub.commentsAddress pr]) ++
        ["-f".toList, "body=".toList ++ settings.marker ++ '\n' :: report issues]
  carries : ∀ c ∈ t.calls, c.token = some client.token ∧ c.timeout = client.timeout ∧
    c.directory = none
  stops : ∀ n < t.calls.length, (script.answer n).output? = none → t.calls.length = n + 1 ∧
    ((∃ e, t.result = .error (.gitHub e)) ∨
      ∃ told, script.answer n = .raised told ∧ t.result = .error (.call told))
  posted_iff : (∃ v, t.result = .ok v ∧ v.posted = true) ↔
    (∃ c ∈ t.calls, isWrite c = true) ∧ ((script.answer 2).output?).isSome
  clear_iff : (∃ v, t.result = .ok v ∧ v.posted = false ∧ v.issues = []) ↔
    IsClear (script.answer 0)
  fails_iff : (∃ e, t.result = .error e) ↔
    ¬ ((∃ c ∈ t.calls, isWrite c = true) ∧ ((script.answer 2).output?).isSome) ∧
      ¬ IsClear (script.answer 0)
  verdicts : ∀ v, t.result = .ok v → v = { pr } ∨
    ∃ issues, MeetsObjections (script.answer 0) issues ∧
      v = { pr, issues, comment := report issues, posted := true }

/-- The answers that let a check refuse a pull request: there are objections, and their report gets
to be a comment. -/
structure Refuses (script : Script) (issues : List Finding) : Prop where
  meets : MeetsObjections (script.answer 0) issues
  listed : ((script.answer 1).output?).isSome
  written : ((script.answer 2).output?).isSome

theorem MeetsObjections.not_clear {o : Outcome} {issues : List Finding}
    (h : MeetsObjections o issues) : ¬ IsClear o := by
  obtain ⟨⟨diff, files, ho, hne, hread, rfl⟩, hsome⟩ := h
  rintro ⟨_, ho', hclear⟩
  obtain rfl := Option.some.inj (ho'.symm.trans ho)
  rcases hclear with hempty | ⟨files', hread', hnone⟩
  · exact hne hempty
  · obtain rfl := Except.ok.inj (hread'.symm.trans hread)
    exact hsome hnone

theorem MeetsObjections.output_ne_none {o : Outcome} {issues : List Finding}
    (h : MeetsObjections o issues) : o.output? ≠ none := by
  obtain ⟨⟨diff, files, ho, -⟩, -⟩ := h
  simp [ho]

theorem IsClear.output_ne_none {o : Outcome} (h : IsClear o) : o.output? ≠ none := by
  obtain ⟨diff, ho, -⟩ := h
  simp [ho]

/-- A diff that cannot be read is not clear. -/
theorem not_isClear_of_error {o : Outcome} {diff : Text} {e : Diff.Error}
    (ho : o.output? = some diff) (hne : diff ≠ []) (hread : Diff.read diff = .error e) :
    ¬ IsClear o := by
  rintro ⟨_, ho', hclear⟩
  obtain rfl := Option.some.inj (ho'.symm.trans ho)
  simp [hne, hread] at hclear

/-- Nor does it meet objections. -/
theorem not_meetsObjections_of_error {o : Outcome} {diff : Text} {e : Diff.Error}
    (ho : o.output? = some diff) (hread : Diff.read diff = .error e) (issues : List Finding) :
    ¬ MeetsObjections o issues := by
  rintro ⟨⟨_, files, ho', -, hread', -⟩, -⟩
  obtain rfl := Option.some.inj (ho'.symm.trans ho)
  simp [hread] at hread'

@[simp]
theorem isWrite_writeCall (issues : List Finding) (listing : Text) :
    isWrite (writeCall settings client pr issues listing) = true := by
  unfold writeCall writeRequest GitHub.Client.writeRequest
  cases GitHub.Client.firstId? listing <;> rfl

namespace Course

variable {script : Script} {cs : List Call} {r : Except Failure Verdict}

/-- How far the calls go. -/
theorem calls_cases (h : Course settings client pr script cs r) :
    ((¬ ∃ issues, MeetsObjections (script.answer 0) issues) ∧ cs = [fetchCall client pr]) ∨
    ((∃ issues, MeetsObjections (script.answer 0) issues) ∧ (script.answer 1).output? = none ∧
      cs = [fetchCall client pr, listCall settings client pr]) ∨
    ∃ issues listing, MeetsObjections (script.answer 0) issues ∧
      (script.answer 1).output? = some listing ∧
      cs = [fetchCall client pr, listCall settings client pr,
        writeCall settings client pr issues listing] := by
  cases h with
  | notFetched hdiff =>
    refine .inl ⟨?_, rfl⟩
    rintro ⟨issues, hmeets⟩
    exact hmeets.output_ne_none hdiff
  | unreadable hdiff hne hread =>
    refine .inl ⟨?_, rfl⟩
    rintro ⟨issues, hmeets⟩
    exact not_meetsObjections_of_error hdiff hread issues hmeets
  | clear hdiff =>
    refine .inl ⟨?_, rfl⟩
    rintro ⟨issues, hmeets⟩
    exact hmeets.not_clear hdiff
  | notListed hdiff hlist => exact .inr (.inl ⟨⟨_, hdiff⟩, hlist, rfl⟩)
  | notWritten hdiff hlist hwrite => exact .inr (.inr ⟨_, _, hdiff, hlist, rfl⟩)
  | written hdiff hlist hwrite => exact .inr (.inr ⟨_, _, hdiff, hlist, rfl⟩)

theorem in_order (h : Course settings client pr script cs r) : ∃ issues listing, cs <+:
    [fetchCall client pr, listCall settings client pr,
      writeCall settings client pr issues listing] := by
  rcases h.calls_cases with ⟨-, rfl⟩ | ⟨-, -, rfl⟩ | ⟨issues, listing, -, -, rfl⟩
  · exact ⟨[], [], [_, _], rfl⟩
  · exact ⟨[], [], [_], rfl⟩
  · exact ⟨issues, listing, List.prefix_rfl⟩

theorem fetches (h : Course settings client pr script cs r) : fetchCall client pr ∈ cs := by
  rcases h.calls_cases with ⟨-, rfl⟩ | ⟨-, -, rfl⟩ | ⟨_, _, -, -, rfl⟩ <;> exact List.mem_cons_self

theorem lists_iff (h : Course settings client pr script cs r) :
    listCall settings client pr ∈ cs ↔ ∃ issues, MeetsObjections (script.answer 0) issues := by
  rcases h.calls_cases with ⟨hno, rfl⟩ | ⟨hmeets, -, rfl⟩ | ⟨issues, _, hmeets, -, rfl⟩
  · simp [hno, listCall, fetchCall]
  · simp [hmeets]
  · simp only [List.mem_cons, true_or, or_true, true_iff]
    exact ⟨issues, hmeets⟩

theorem writes_iff (h : Course settings client pr script cs r) :
    (∃ c ∈ cs, isWrite c = true) ↔
      (∃ issues, MeetsObjections (script.answer 0) issues) ∧
        ((script.answer 1).output?).isSome := by
  rcases h.calls_cases with ⟨hno, rfl⟩ | ⟨hmeets, hlist, rfl⟩ | ⟨issues, _, hmeets, hlist, rfl⟩
  · simp [hno, fetchCall, isWrite]
  · simp [hlist, fetchCall, listCall, isWrite]
  · simp only [hlist, Option.isSome_some, and_true]
    constructor
    · intro _
      exact ⟨issues, hmeets⟩
    · intro _
      exact ⟨_, List.mem_append_right [_, _] List.mem_cons_self, isWrite_writeCall _ _⟩

theorem writes_once (h : Course settings client pr script cs r) : cs.countP isWrite ≤ 1 := by
  have hfetch : isWrite (fetchCall client pr) = false := rfl
  have hlist : isWrite (listCall settings client pr) = false := rfl
  rcases h.calls_cases with ⟨-, rfl⟩ | ⟨-, -, rfl⟩ | ⟨_, _, -, -, rfl⟩ <;>
    simp [hfetch, hlist]

theorem fetches_diff (h : Course settings client pr script cs r) :
    ∀ c, cs[0]? = some c → c.arguments = [client.binary, "api".toList, "-H".toList,
      "Accept: application/vnd.github.v3.diff".toList, GitHub.pullAddress pr] := by
  intro c hc
  obtain rfl : fetchCall client pr = c := by
    rcases h.calls_cases with ⟨-, rfl⟩ | ⟨-, -, rfl⟩ | ⟨_, _, -, -, rfl⟩ <;>
      exact Option.some.inj hc
  exact congrArg (client.binary :: "api".toList :: ·) (GitHub.Request.arguments_diff pr)

theorem lists_comments (h : Course settings client pr script cs r) :
    ∀ c, cs[1]? = some c → c.arguments = [client.binary, "api".toList, "--paginate".toList,
      GitHub.commentsAddress pr, "--jq".toList, ".[] | select(.body | startswith(".toList ++
        Json.writeAsciiString settings.marker ++ ")) | .id".toList] := by
  intro c hc
  obtain rfl : listCall settings client pr = c := by
    rcases h.calls_cases with ⟨-, rfl⟩ | ⟨-, -, rfl⟩ | ⟨_, _, -, -, rfl⟩
    · cases hc
    · exact Option.some.inj hc
    · exact Option.some.inj hc
  exact congrArg (client.binary :: "api".toList :: ·)
    (GitHub.Request.arguments_comments pr settings.marker)

/-- A write is the third call, and the third call is the write of the report. -/
theorem write_cases (h : Course settings client pr script cs r) {c : Call}
    (hc : cs[2]? = some c ∨ c ∈ cs ∧ isWrite c = true) : ∃ issues listing,
      MeetsObjections (script.answer 0) issues ∧ (script.answer 1).output? = some listing ∧
        c = writeCall settings client pr issues listing := by
  have hfetch : ¬ isWrite (fetchCall client pr) = true := Bool.false_ne_true
  have hlist : ¬ isWrite (listCall settings client pr) = true := Bool.false_ne_true
  rcases h.calls_cases with ⟨-, rfl⟩ | ⟨-, -, rfl⟩ | ⟨issues, listing, hmeets, hlisted, rfl⟩
  · rcases hc with hc | ⟨hc, hw⟩
    · cases hc
    · obtain rfl := List.mem_singleton.1 hc
      exact absurd hw hfetch
  · rcases hc with hc | ⟨hc, hw⟩
    · cases hc
    · rcases List.mem_cons.1 hc with rfl | hc
      · exact absurd hw hfetch
      · obtain rfl := List.mem_singleton.1 hc
        exact absurd hw hlist
  · refine ⟨issues, listing, hmeets, hlisted, ?_⟩
    rcases hc with hc | ⟨hc, hw⟩
    · exact (Option.some.inj hc).symm
    · rcases List.mem_cons.1 hc with rfl | hc
      · exact absurd hw hfetch
      rcases List.mem_cons.1 hc with rfl | hc
      · exact absurd hw hlist
      · exact List.mem_singleton.1 hc

theorem writes_report (h : Course settings client pr script cs r) :
    ∀ c, cs[2]? = some c ∨ c ∈ cs ∧ isWrite c = true →
      ∃ issues listing, MeetsObjections (script.answer 0) issues ∧
        (script.answer 1).output? = some listing ∧
        c = writeCall settings client pr issues listing ∧
        c.arguments = client.binary :: "api".toList :: "--method".toList ::
          (match GitHub.Client.firstId? listing with
            | some id => ["PATCH".toList, GitHub.commentAddress pr id]
            | none => ["POST".toList, GitHub.commentsAddress pr]) ++
          ["-f".toList, "body=".toList ++ settings.marker ++ '\n' :: report issues] := by
  intro c hc
  obtain ⟨issues, listing, hmeets, hlisted, rfl⟩ := h.write_cases hc
  refine ⟨issues, listing, hmeets, hlisted, rfl, ?_⟩
  exact congrArg (client.binary :: "api".toList :: ·)
    (GitHub.Client.arguments_writeRequest pr settings.marker (report issues) listing)

theorem carries (h : Course settings client pr script cs r) :
    ∀ c ∈ cs, c.token = some client.token ∧ c.timeout = client.timeout ∧ c.directory = none := by
  have hown : ∀ request, (Call.gitHub client pr request).token = some client.token ∧
      (Call.gitHub client pr request).timeout = client.timeout ∧
      (Call.gitHub client pr request).directory = none := fun _ => ⟨rfl, rfl, rfl⟩
  intro c hc
  obtain ⟨issues, listing, hprefix⟩ := h.in_order
  have hmem := hprefix.subset hc
  simp only [List.mem_cons, List.not_mem_nil, or_false] at hmem
  rcases hmem with rfl | rfl | rfl
  · exact hown _
  · exact hown _
  · exact hown _

/-- A call that is not answered well is the last one, and the check fails with what its answer makes
of the request. -/
theorem stops_with (h : Course settings client pr script cs r) :
    ∀ n < cs.length, (script.answer n).output? = none →
      cs.length = n + 1 ∧ ∃ request, r = .error (client.failureOf request (script.answer n)) := by
  intro n hn hnone
  cases h with
  | notFetched hdiff =>
    obtain rfl : n = 0 := by simpa using hn
    exact ⟨rfl, _, rfl⟩
  | unreadable hdiff hne hread =>
    obtain rfl : n = 0 := by simpa using hn
    simp [hdiff] at hnone
  | clear hdiff =>
    obtain rfl : n = 0 := by simpa using hn
    exact absurd hnone hdiff.output_ne_none
  | notListed hdiff hlist =>
    match n, hn with
    | 0, _ => exact absurd hnone hdiff.output_ne_none
    | 1, _ => exact ⟨rfl, _, rfl⟩
  | notWritten hdiff hlist hwrite =>
    match n, hn with
    | 0, _ => exact absurd hnone hdiff.output_ne_none
    | 1, _ => simp [hlist] at hnone
    | 2, _ => exact ⟨rfl, _, rfl⟩
  | written hdiff hlist hwrite =>
    match n, hn with
    | 0, _ => exact absurd hnone hdiff.output_ne_none
    | 1, _ => simp [hlist] at hnone
    | 2, _ => simp [hnone] at hwrite

theorem stops (h : Course settings client pr script cs r) :
    ∀ n < cs.length, (script.answer n).output? = none → cs.length = n + 1 ∧
      ((∃ e, r = .error (.gitHub e)) ∨
        ∃ told, script.answer n = .raised told ∧ r = .error (.call told)) := by
  intro n hn hnone
  obtain ⟨hlast, request, rfl⟩ := h.stops_with n hn hnone
  refine ⟨hlast, ?_⟩
  rcases client.failureOf_cases request (script.answer n) with ⟨e, he, -⟩ | ⟨told, hraised, hf⟩
  · rw [he]
    exact .inl ⟨e, rfl⟩
  · rw [hf]
    exact .inr ⟨told, hraised, rfl⟩

theorem posted_iff (h : Course settings client pr script cs r) :
    (∃ v, r = .ok v ∧ v.posted = true) ↔
      (∃ c ∈ cs, isWrite c = true) ∧ ((script.answer 2).output?).isSome := by
  cases h with
  | notFetched hdiff => simp [fetchCall, isWrite]
  | unreadable hdiff hne hread => simp [fetchCall, isWrite]
  | clear hdiff => simp [fetchCall, isWrite]
  | notListed hdiff hlist => simp [fetchCall, listCall, isWrite]
  | notWritten hdiff hlist hwrite => simp [hwrite]
  | written hdiff hlist hwrite => simp [hwrite]

theorem clear_iff (h : Course settings client pr script cs r) :
    (∃ v, r = .ok v ∧ v.posted = false ∧ v.issues = []) ↔ IsClear (script.answer 0) := by
  cases h with
  | notFetched hdiff =>
    have hno : ¬ IsClear (script.answer 0) := fun hclear => hclear.output_ne_none hdiff
    simp [hno]
  | unreadable hdiff hne hread =>
    simp [not_isClear_of_error hdiff hne hread]
  | clear hdiff => simp [hdiff]
  | notListed hdiff hlist => simp [hdiff.not_clear]
  | notWritten hdiff hlist hwrite => simp [hdiff.not_clear]
  | written hdiff hlist hwrite => simp [hdiff.not_clear]

theorem verdicts (h : Course settings client pr script cs r) :
    ∀ v, r = .ok v → v = { pr } ∨ ∃ issues, MeetsObjections (script.answer 0) issues ∧
      v = { pr, issues, comment := report issues, posted := true } := by
  rintro v rfl
  cases h with
  | clear hdiff => exact .inl rfl
  | written hdiff hlist hwrite => exact .inr ⟨_, hdiff, rfl⟩

/-- There is no third way to end without an error. -/
theorem fails_iff (h : Course settings client pr script cs r) :
    (∃ e, r = .error e) ↔
      ¬ ((∃ c ∈ cs, isWrite c = true) ∧ ((script.answer 2).output?).isSome) ∧
        ¬ IsClear (script.answer 0) := by
  rw [← h.posted_iff, ← h.clear_iff]
  cases r with
  | error e => simp
  | ok v =>
    rcases h.verdicts v rfl with rfl | ⟨issues, -, rfl⟩
    · simp
    · simp

/-- The three ends of a check, as the answers decide them. -/
theorem result_cases (h : Course settings client pr script cs r) :
    (IsClear (script.answer 0) ∧ r = .ok { pr }) ∨
    (∃ issues, Refuses script issues ∧
      r = .ok { pr, issues, comment := report issues, posted := true }) ∨
    (¬ IsClear (script.answer 0) ∧ (¬ ∃ issues, Refuses script issues) ∧ ∃ e, r = .error e) := by
  cases h with
  | notFetched hdiff =>
    refine .inr (.inr ⟨fun hclear => hclear.output_ne_none hdiff, ?_, _, rfl⟩)
    rintro ⟨issues, hrefuses⟩
    exact hrefuses.meets.output_ne_none hdiff
  | unreadable hdiff hne hread =>
    refine .inr (.inr ⟨not_isClear_of_error hdiff hne hread, ?_, _, rfl⟩)
    rintro ⟨issues, hrefuses⟩
    exact not_meetsObjections_of_error hdiff hread issues hrefuses.meets
  | clear hdiff => exact .inl ⟨hdiff, rfl⟩
  | notListed hdiff hlist =>
    refine .inr (.inr ⟨hdiff.not_clear, ?_, _, rfl⟩)
    rintro ⟨issues, hrefuses⟩
    simpa [hlist] using hrefuses.listed
  | notWritten hdiff hlist hwrite =>
    refine .inr (.inr ⟨hdiff.not_clear, ?_, _, rfl⟩)
    rintro ⟨issues, hrefuses⟩
    simpa [hwrite] using hrefuses.written
  | written hdiff hlist hwrite => exact .inr (.inl ⟨_, ⟨hdiff, by simp [hlist], hwrite⟩, rfl⟩)

/-- When all calls are answered well, a check comes to what the analysis of its diff comes to. -/
theorem issues_eq (h : Course settings client pr script cs r) {diff : Text}
    (hdiff : (script.answer 0).output? = some diff)
    (hlater : ∀ n, (script.answer (n + 1)).output? ≠ none) :
    r.map Verdict.issues = ((Diff.read diff).mapError Failure.diff).map analyzeFiles := by
  cases h with
  | notFetched hnone => simp [hdiff] at hnone
  | unreadable hdiff' hne hread =>
    obtain rfl := Option.some.inj (hdiff'.symm.trans hdiff)
    rw [hread]
    rfl
  | clear hclear =>
    obtain ⟨_, hdiff', hclear⟩ := hclear
    obtain rfl := Option.some.inj (hdiff'.symm.trans hdiff)
    rcases hclear with rfl | ⟨files, hread, hnone⟩
    · rfl
    · rw [hread]
      exact congrArg Except.ok hnone.symm
  | notListed hmeets hlist => exact absurd hlist (hlater 0)
  | notWritten hmeets hlist hwrite => exact absurd hwrite (hlater 1)
  | written hmeets hlist hwrite =>
    obtain ⟨⟨_, files, hdiff', -, hread, rfl⟩, -⟩ := hmeets
    obtain rfl := Option.some.inj (hdiff'.symm.trans hdiff)
    rw [hread]
    rfl

end Course

/-- Whatever the event, the settings, the client, the check of records and the answers are: without
a pull request nothing is called and the check fails with the event's own error, and with one the
protocol is kept. -/
theorem every_check_keeps_the_protocol (records : RecordCheck) (w : Workspace)
    (settings : Settings) (client : GitHub.Client) (script : Script) :
    let t := (run records w settings client).runScript script
    match Event.load records w settings.eventPath settings.repository with
    | .error e => t.calls = [] ∧ t.result = .error (.event e)
    | .ok pr => KeepsProtocol settings client pr script t := by
  intro t
  cases hpr : Event.load records w settings.eventPath settings.repository with
  | error e =>
    have hend : Ends Script.respond (run records w settings client) script [] (.error (.event e))
        script := run_of_event_error hpr script
    exact ⟨hend.calls_eq, hend.result_eq⟩
  | ok pr =>
    have hcourse : Course settings client pr script t.calls t.result :=
      run_takes_a_course hpr script
    exact ⟨hcourse.in_order, hcourse.fetches, hcourse.lists_iff, hcourse.writes_iff,
      hcourse.writes_once, hcourse.fetches_diff, hcourse.lists_comments, hcourse.writes_report,
      hcourse.carries, hcourse.stops, hcourse.posted_iff, hcourse.clear_iff, hcourse.fails_iff,
      hcourse.verdicts⟩

end PinGate.Validation
