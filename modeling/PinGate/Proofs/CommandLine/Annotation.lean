-- The annotation of a run that fails. It is one command to the workflow, and all that is told
-- stands on lines that the gate begins, as long as nothing that is told as it is has a line feed
-- and the console begins no row with what is told. Three things are told as they are: what a call
-- says about its error, the path of an event that is no JSON document, and what the check of a
-- record says.
import PinGate.Proofs.Blame
import PinGate.Proofs.CommandLine.Gate
import PinGate.Proofs.Terminal.LineFeeds

namespace PinGate.CommandLine.Gate

open Text Terminal Dialogue Validation

/-! ## One command -/

/-- What a run that fails tells as its reason. -/
def reason : Except Failure Verdict → Text
  | .error e => "Action failed: ".toList ++ e.message
  | .ok _ => refusal

/-- The lines of an output that are commands to the workflow. -/
def commands (output : Text) : List Text := (lines output).filter (startsWith "::".toList)

/-- An output issues one command to the workflow, the annotation with a message. No other line is
begun by anything but the gate: which lines it begins is what `own` says. -/
structure IssuesOneCommand (own : Text → Prop) (output message : Text) : Prop where
  one_command : commands output = ["::error::".toList ++ message]
  own_lines : ∀ l ∈ lines output, l = [] ∨ l = "::error::".toList ++ message ∨ own l

/-- A row of the console that is no command to the workflow, and that the gate begins if it is not
empty. -/
structure IsTame (own : Text → Prop) (row : Text) : Prop where
  no_command : startsWith "::".toList row = false
  own_or_empty : row = [] ∨ own row

section

variable {own : Text → Prop} {c : Console} {message front : Text}

/-- What is selected is one entry just when that is the one that is known to be selected. -/
theorem filter_eq_singleton_iff {α : Type} {p : α → Bool} {a b : α} (ha : p a = true)
    (front rest : List α) : (front ++ a :: rest).filter p = [b] ↔
      a = b ∧ ∀ x ∈ front ++ rest, p x = false := by
  rw [List.filter_append, List.filter_cons_of_pos ha]
  constructor
  · intro h
    have hnil : front.filter p = [] := by
      rcases List.append_eq_singleton_iff.1 h with ⟨hfront, -⟩ | ⟨-, hrest⟩
      · exact hfront
      · cases hrest
    rw [hnil] at h
    obtain ⟨rfl, hrest⟩ := List.cons.inj h
    refine ⟨rfl, fun x hx => Bool.eq_false_iff.2 ?_⟩
    rcases List.mem_append.1 hx with hx | hx
    · exact List.filter_eq_nil_iff.1 hnil x hx
    · exact List.filter_eq_nil_iff.1 hrest x hx
  · rintro ⟨rfl, h⟩
    have hfront : front.filter p = [] :=
      List.filter_eq_nil_iff.2 fun x hx => Bool.eq_false_iff.1 (h x (List.mem_append_left _ hx))
    have hrest : rest.filter p = [] :=
      List.filter_eq_nil_iff.2 fun x hx => Bool.eq_false_iff.1 (h x (List.mem_append_right _ hx))
    rw [hfront, hrest, List.nil_append]

/-- A text that ends its last line adds lines of its own in front. -/
theorem lines_of_ended (h : front = [] ∨ ∃ rows, front = rows ++ ['\n']) :
    ∃ ls, ∀ s, lines (front ++ s) = ls ++ lines s := by
  rcases h with rfl | ⟨rows, rfl⟩
  · exact ⟨[], fun s => rfl⟩
  · refine ⟨lines rows, fun s => ?_⟩
    rw [List.append_assoc, List.singleton_append, lines_append]

/-- The lines of an annotation behind some rows are those of the console, with the command between
them. -/
theorem lines_annotate (hfront : front = [] ∨ ∃ rows, front = rows ++ ['\n'])
    (h : '\n' ∉ message) : ∃ told ls ls', c.echo message = told ++ ['\n'] ∧
      lines (front ++ annotate c message) = ls ++ ("::error::".toList ++ told) :: ls' ∧
      lines (front ++ c.line .failure message) = ls ++ ls' := by
  obtain ⟨told, htold, hecho⟩ := c.echo_of_not_mem h
  obtain ⟨ls, hls⟩ := lines_of_ended hfront
  have hcommand : '\n' ∉ "::error::".toList ++ told := List.not_mem_append (by decide) htold
  refine ⟨told, ls, lines (c.line .failure message), hecho, ?_, hls _⟩
  rw [hls, annotate_eq, hecho, ← List.append_assoc, lines_line hcommand]

/-- What has a line feed is not told whole by one line. -/
theorem IssuesOneCommand.not_mem_message {output : Text} (h : IssuesOneCommand own output message) :
    '\n' ∉ message := by
  have hmem : "::error::".toList ++ message ∈ commands output := by
    rw [h.one_command]
    exact List.mem_singleton_self _
  exact fun hfeed =>
    not_mem_of_mem_lines (List.mem_of_mem_filter hmem) (List.mem_append_right _ hfeed)

/-- An annotation is one command just when its message is on one line, raw output shows it whole,
and the console keeps its rows. -/
theorem issuesOneCommand_annotate_iff (hfront : front = [] ∨ ∃ rows, front = rows ++ ['\n']) :
    IssuesOneCommand own (front ++ annotate c message) message ↔ '\n' ∉ message ∧
      c.echo message = message ++ ['\n'] ∧
        ∀ row ∈ lines (front ++ c.line .failure message), IsTame own row := by
  by_cases hfeed : '\n' ∈ message
  · refine iff_of_false (fun h => h.not_mem_message hfeed) ?_
    exact fun h => h.1 hfeed
  obtain ⟨told, ls, ls', hecho, hlines, hrows⟩ := lines_annotate (c := c) hfront hfeed
  have hcommand : startsWith "::".toList ("::error::".toList ++ told) = true := rfl
  have hone : commands (front ++ annotate c message) = ["::error::".toList ++ message] ↔
      told = message ∧ ∀ row ∈ ls ++ ls', startsWith "::".toList row = false := by
    unfold commands
    rw [hlines, filter_eq_singleton_iff hcommand, List.append_cancel_left_eq]
  have hwhole : c.echo message = message ++ ['\n'] ↔ told = message := by
    rw [hecho, List.append_cancel_right_eq]
  rw [hwhole, hrows]
  constructor
  · intro h
    obtain ⟨rfl, hno⟩ := hone.1 h.one_command
    refine ⟨hfeed, rfl, fun row hrow => ⟨hno row hrow, ?_⟩⟩
    have hmem : row ∈ lines (front ++ annotate c told) := by
      rw [hlines]
      rcases List.mem_append.1 hrow with hrow | hrow
      · exact List.mem_append_left _ hrow
      · exact List.mem_append_right _ (List.mem_cons_of_mem _ hrow)
    rcases h.own_lines row hmem with hnil | rfl | hown
    · exact .inl hnil
    · cases hcommand.symm.trans (hno _ hrow)
    · exact .inr hown
  · rintro ⟨-, rfl, htame⟩
    refine ⟨hone.2 ⟨rfl, fun row hrow => (htame row hrow).no_command⟩, fun l hl => ?_⟩
    have hown (hl : l ∈ ls ++ ls') : l = [] ∨ l = "::error::".toList ++ told ∨ own l :=
      (htame l hl).own_or_empty.imp_right .inr
    rw [hlines] at hl
    rcases List.mem_append.1 hl with hl | hl
    · exact hown (List.mem_append_left _ hl)
    · rcases List.mem_cons.1 hl with rfl | hl
      · exact .inr (.inl rfl)
      · exact hown (List.mem_append_right _ hl)

end

/-! ## What the console has to keep -/

/-- What stands in front of the annotation of a run that fails. -/
def warningOf (c : Console) : Except Failure Verdict → Text
  | .error _ => []
  | .ok v => countLine c v

/-- The console does its part for a run that fails: raw output shows the reason whole, and no row of
the messages is a command or begun by anything but the gate. A console that breaks a message into
rows may begin one of them with a part of it. -/
structure ConsoleKeeps (own : Text → Prop) (c : Console) (r : Except Failure Verdict) : Prop where
  whole : c.echo (reason r) = reason r ++ ['\n']
  rows : ∀ row ∈ lines (warningOf c r ++ c.line .failure (reason r)), IsTame own row

/-- A message is shown in one row behind its sign. -/
def ShowsInOneRow (c : Console) (sign : Sign) (message : Text) : Prop :=
  ∃ t, '\n' ∉ t ∧ c.line sign message = sign.symbol :: ' ' :: t ++ ['\n']

/-- A row that begins with a sign. -/
def IsSigned (row : Text) : Prop := ∃ (sign : Sign) (t : Text), row = sign.symbol :: ' ' :: t

section

variable {c : Console} {sign : Sign} {message : Text}

theorem isTame_signed (sign : Sign) (t : Text) : IsTame IsSigned (sign.symbol :: ' ' :: t) := by
  refine ⟨?_, .inr ⟨sign, t, rfl⟩⟩
  cases sign <;> rfl

theorem isTame_of_mem_lines (h : ShowsInOneRow c sign message) {s : Text}
    (hs : ∀ row ∈ lines s, IsTame IsSigned row) :
    ∀ row ∈ lines (c.line sign message ++ s), IsTame IsSigned row := by
  obtain ⟨t, ht, hline⟩ := h
  have hrow : '\n' ∉ sign.symbol :: ' ' :: t := by
    have hsign : '\n' ∉ [sign.symbol, ' '] := by cases sign <;> decide
    exact List.not_mem_append hsign ht
  intro row hmem
  rw [hline, lines_line hrow] at hmem
  rcases List.mem_cons.1 hmem with rfl | hmem
  · exact isTame_signed sign t
  · exact hs row hmem

/-- A console does its part when it shows each message in one row. -/
theorem consoleKeeps_of_showsInOneRow {r : Except Failure Verdict}
    (hwhole : c.echo (reason r) = reason r ++ ['\n'])
    (hcount : ∀ v, r = .ok v → ShowsInOneRow c .warning (countOf v))
    (hreason : ShowsInOneRow c .failure (reason r)) : ConsoleKeeps IsSigned c r := by
  have hend : ∀ row ∈ lines [], IsTame IsSigned row := by
    intro row hrow
    obtain rfl := List.mem_singleton.1 hrow
    exact ⟨rfl, .inl rfl⟩
  have hlast := isTame_of_mem_lines hreason hend
  rw [List.append_nil] at hlast
  refine ⟨hwhole, ?_⟩
  cases r with
  | error e => exact hlast
  | ok v => exact isTame_of_mem_lines (hcount v rfl) hlast

end

/-! ## What is told as it is -/

/-- Whether a run tells a line feed as it is: in what a call says about its error, in the path of an
event that is no JSON document, or in what the check of a record says. -/
inductive TellsLineFeed (s : Surroundings) (token : Option Text) (script : Script)
    (calls : List Call) : Prop
  | answer {n : Nat} (hn : n < calls.length) (h : (script.answer n).IsManyLined)
  | path {settings : Settings} {path : Text} {flaw : Json.Flaw} {place : Json.Place}
    (hsettings : Settings.ofEnvironment s.environment token = .ok settings)
    (hpath : settings.eventPath = some path)
    (h : Event.load s.packages.records s.workspace settings.eventPath settings.repository =
      .error (.notJson path flaw place))
    (hfeed : '\n' ∈ path)
  | record {settings : Settings} {e : RecordError}
    (hsettings : Settings.ofEnvironment s.environment token = .ok settings)
    (h : Event.load s.packages.records s.workspace settings.eventPath settings.repository =
      .error (.fields e))
    (hfeed : '\n' ∈ e.told)

/-- The ways of a check: no settings, no pull request, or one of the courses. -/
theorem check_cases (s : Surroundings) (token : Option Text) (script : Script) :
    let t := (check s token).runScript script
    (∃ e, Settings.ofEnvironment s.environment token = .error e ∧ t.calls = [] ∧
      t.result = .error (.settings e)) ∨
    ∃ settings, Settings.ofEnvironment s.environment token = .ok settings ∧
      ((∃ e, Event.load s.packages.records s.workspace settings.eventPath settings.repository =
          .error e ∧ t.calls = [] ∧ t.result = .error (.event e)) ∨
      ∃ pr, Loads s token settings pr ∧
        Course settings (clientOf settings) pr script t.calls t.result) := by
  intro t
  cases hset : Settings.ofEnvironment s.environment token with
  | error e =>
    have hcheck : check s token = .done (.error (.settings e)) := by
      rw [check, hset]
    refine .inl ⟨e, rfl, ?_, ?_⟩ <;> simp only [t, hcheck] <;> rfl
  | ok settings =>
    let records := s.packages.records
    have hcheck : check s token =
        Validation.run records s.workspace settings (clientOf settings) := by
      rw [check, hset]
    refine .inr ⟨settings, rfl, ?_⟩
    simp only [t, hcheck]
    cases hload : Event.load records s.workspace settings.eventPath settings.repository with
    | error e =>
      have hend : Ends Script.respond
          (Validation.run records s.workspace settings (clientOf settings))
          script [] (.error (.event e)) script := run_of_event_error hload script
      exact .inl ⟨e, rfl, hend.calls_eq, hend.result_eq⟩
    | ok pr => exact .inr ⟨pr, ⟨hset, hload⟩, run_takes_a_course hload script⟩

section

variable {s : Surroundings} {token : Option Text} {script : Script}

theorem not_mem_binary (settings : Settings) : '\n' ∉ (clientOf settings).binary := by
  have hgh : '\n' ∉ "gh".toList := by decide
  exact hgh

/-! ### Without settings, without a pull request, and with both -/

theorem not_tells_of_settings_error {e : Settings.Error}
    (hset : Settings.ofEnvironment s.environment token = .error e) :
    ¬ TellsLineFeed s token script [] := by
  intro h
  cases h with
  | answer hn => exact Nat.not_lt_zero _ hn
  | path hset' => cases hset.symm.trans hset'
  | record hset' => cases hset.symm.trans hset'

theorem tells_iff_of_event_error {settings : Settings} {e : Event.Error}
    (hset : Settings.ofEnvironment s.environment token = .ok settings)
    (hload : Event.load s.packages.records s.workspace settings.eventPath settings.repository =
      .error e) :
    TellsLineFeed s token script [] ↔
      (∃ p flaw place, e = .notJson p flaw place ∧ settings.eventPath = some p ∧ '\n' ∈ p) ∨
        ∃ r, e = .fields r ∧ '\n' ∈ r.told := by
  constructor
  · intro h
    cases h with
    | answer hn => exact absurd hn (Nat.not_lt_zero _)
    | path hset' hpath hload' hfeed =>
      obtain rfl := Except.ok.inj (hset.symm.trans hset')
      exact .inl ⟨_, _, _, Except.error.inj (hload.symm.trans hload'), hpath, hfeed⟩
    | record hset' hload' hfeed =>
      obtain rfl := Except.ok.inj (hset.symm.trans hset')
      exact .inr ⟨_, Except.error.inj (hload.symm.trans hload'), hfeed⟩
  · rintro (⟨p, flaw, place, rfl, hpath, hfeed⟩ | ⟨r, rfl, hfeed⟩)
    · exact .path hset hpath hload hfeed
    · exact .record hset hload hfeed

theorem tells_iff_of_loads {settings : Settings} {pr : PullRequest} {calls : List Call}
    (hloads : Loads s token settings pr) : TellsLineFeed s token script calls ↔
      ∃ n < calls.length, (script.answer n).IsManyLined := by
  constructor
  · intro h
    cases h with
    | answer hn hmany => exact ⟨_, hn, hmany⟩
    | path hset _ hload =>
      obtain rfl := Except.ok.inj (hset.symm.trans hloads.settings_load)
      cases hload.symm.trans hloads.event_loads
    | record hset hload =>
      obtain rfl := Except.ok.inj (hset.symm.trans hloads.settings_load)
      cases hload.symm.trans hloads.event_loads
  · rintro ⟨n, hn, hmany⟩
    exact .answer hn hmany

/-- The message of a failure holds a line feed just when the run tells one as it is. -/
theorem mem_message_iff {f : Failure} (hr : ((check s token).runScript script).result = .error f) :
    '\n' ∈ f.message ↔ TellsLineFeed s token script ((check s token).runScript script).calls := by
  rcases check_cases s token script with
    ⟨e, hset, hcalls, hresult⟩ |
      ⟨settings, hset, ⟨e, hload, hcalls, hresult⟩ | ⟨pr, hloads, hcourse⟩⟩
  · obtain rfl := Except.error.inj (hr.symm.trans hresult)
    rw [hcalls]
    exact iff_of_false e.not_mem_message (not_tells_of_settings_error hset)
  · obtain rfl := Except.error.inj (hr.symm.trans hresult)
    rw [hcalls, tells_iff_of_event_error hset hload]
    exact Event.Error.mem_message_iff (Event.isTold_of_load hload)
  · rw [hr] at hcourse
    rw [tells_iff_of_loads hloads]
    exact hcourse.mem_message_iff (not_mem_binary settings)

/-- A check that comes to a verdict tells no line feed as it is. -/
theorem not_tells_of_ok {v : Verdict} (hr : ((check s token).runScript script).result = .ok v) :
    ¬ TellsLineFeed s token script ((check s token).runScript script).calls := by
  rcases check_cases s token script with
    ⟨e, -, -, hresult⟩ | ⟨settings, -, ⟨e, -, -, hresult⟩ | ⟨pr, hloads, hcourse⟩⟩
  · cases hr.symm.trans hresult
  · cases hr.symm.trans hresult
  · rw [tells_iff_of_loads hloads]
    rintro ⟨n, hn, hmany⟩
    obtain ⟨-, request, hend⟩ := hcourse.stops_with n hn hmany.output?_eq_none
    cases hr.symm.trans hend

/-- The reason of a run that fails holds a line feed just when the run tells one as it is. -/
theorem mem_reason_iff {r : Except Failure Verdict}
    (hr : ((check s token).runScript script).result = r) :
    '\n' ∈ reason r ↔ TellsLineFeed s token script ((check s token).runScript script).calls := by
  cases r with
  | error f =>
    have hmark : '\n' ∉ "Action failed: ".toList := by decide
    exact (List.mem_append.trans (or_iff_right hmark)).trans (mem_message_iff hr)
  | ok v =>
    have hrefusal : '\n' ∉ refusal := by decide +kernel
    exact iff_of_false hrefusal (not_tells_of_ok hr)

end

/-! ## Runs that fail -/

theorem warningOf_ended (c : Console) (r : Except Failure Verdict) :
    warningOf c r = [] ∨ ∃ rows, warningOf c r = rows ++ ['\n'] := by
  cases r with
  | error e => exact .inl rfl
  | ok v => exact .inr (c.line_ends _ _)

/-- A run that fails ends with the annotation, behind the warning if there is one. -/
theorem output_of_code {c : Console} {level : Level} {r : Except Failure Verdict}
    (hcode : (ending c level r).code = 1) :
    (ending c level r).output = warningOf c r ++ annotate c (reason r) := by
  cases r with
  | error e => rfl
  | ok v =>
    have hv : v.failed = true := by
      by_contra hno
      have hzero : (ending c level (.ok v)).code = 0 := if_neg hno
      rw [hzero] at hcode
      cases hcode
    exact if_pos hv

/-- A run on a pull request that loads. -/
def onPullRequest : Surroundings where
  packages := .standard
  workspace := { files := [("event".toList, toBytes "\x7b\"number\": 7\x7d".toList)] }
  environment := [("GITHUB_TOKEN".toList, ['t']), ("GITHUB_EVENT_PATH".toList, "event".toList),
    ("GITHUB_REPOSITORY".toList, "o/r".toList)]

/-- An answer that is no good, with a text about the error. -/
def failing (errors : Text) : Script := [.finished 1 [] errors]

/-- The error that it comes to. -/
def notFetched (detail : Text) : Failure := .gitHub ⟨GitHub.Request.diff.action, detail⟩

/-- What stands behind a line feed of a message is a line of its own. -/
theorem mem_lines_annotate {c : Console} {front w : Text} (hplain : IsPlain (front ++ '\n' :: w))
    (hw : '\n' ∉ w) : w ∈ lines (annotate c (front ++ '\n' :: w)) := by
  have hecho : "::error::".toList ++ c.echo (front ++ '\n' :: w) =
      "::error::".toList ++ front ++ '\n' :: (w ++ ['\n']) := by
    rw [c.echo_of_plain hplain]
    simp only [List.append_assoc, List.cons_append]
  rw [annotate_eq, hecho, List.append_assoc, List.cons_append, lines_append, lines_line hw]
  exact List.mem_append_right _ List.mem_cons_self

end PinGate.CommandLine.Gate
