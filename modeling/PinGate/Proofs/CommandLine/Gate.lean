-- The law of the gate: it opens only for a diff that nothing is to be said against. Whatever the
-- environment, the event and the answers are, a run ends with exit code zero and one line, or with
-- exit code one and an annotation that says why.
import PinGate.CommandLine.Command
import PinGate.Proofs.CallProtocol

namespace PinGate.CommandLine

open Text Terminal Dialogue Validation

/-! ## How a run is asked for -/

theorem perform_runArguments (s : Surroundings) (verbose : Bool) (token : Option Text) :
    perform s (runArguments verbose token) = Gate.run s verbose token := by
  rw [perform, s.packages.arguments.reads_run]
  rfl

namespace Gate

/-! ## How a run ends -/

/-- The end of a run whose check comes to a result. -/
def ending (c : Console) (level : Level) : Except Failure Verdict → Ending
  | .error e => { code := 1, output := failureOutput c e, level }
  | .ok v => { code := if v.failed then 1 else 0, output := verdictOutput c v, level }

variable {σ : Type} {respond : Call → σ → Outcome × σ}

theorem conclude_ends (c : Console) (level : Level) (r : Except Failure Verdict) (st : σ) :
    Ends respond (conclude c level r) st [] (.ok (ending c level r)) st := by
  cases r with
  | error e => exact Ends.behind_record _ (Ends.done _ st)
  | ok v => exact Ends.done _ st

/-- The check that a run makes, the reading of its settings included. -/
def check (s : Surroundings) (token : Option Text) : Dialogue Failure Verdict :=
  match Settings.ofEnvironment s.environment token with
  | .error e => .done (.error (.settings e))
  | .ok settings => Validation.run s.packages.records s.workspace settings (clientOf settings)

/-- A run makes the calls of its check and ends as that decides. -/
theorem run_ends (s : Surroundings) (verbose : Bool) (token : Option Text) (script : Script) :
    ∃ level, Ends Script.respond (Gate.run s verbose token) script
      ((check s token).runScript script).calls
      (.ok (ending s.packages.console level ((check s token).runScript script).result))
      ((check s token).runScript script).partner := by
  unfold Gate.run check
  cases Settings.ofEnvironment s.environment token with
  | error e => exact ⟨_, (conclude_ends _ _ (.error (.settings e)) script).keeping _⟩
  | ok settings =>
    -- The check keeps its own records; the level only drops some, whatever the check comes to.
    let level := level (verbose || settings.debug)
    let d := Validation.run s.packages.records s.workspace settings (clientOf settings)
    let t := d.runScript script
    have hcheck : Ends Script.respond d script t.calls t.result t.partner := ⟨rfl, rfl, rfl⟩
    have hend := (hcheck.andThen
      (conclude_ends s.packages.console level t.result t.partner)).keeping level
    rw [List.append_nil] at hend
    exact ⟨level, hend⟩

/-- Settings and a pull request load for a run. -/
structure Loads (s : Surroundings) (token : Option Text) (settings : Settings)
    (pr : PullRequest) : Prop where
  settings_load : Settings.ofEnvironment s.environment token = .ok settings
  event_loads : Event.load s.packages.records s.workspace settings.eventPath settings.repository =
    .ok pr

/-- The gate may open: all that a run needs loads, and its diff is clear. -/
def MayOpen (s : Surroundings) (token : Option Text) (script : Script) : Prop :=
  ∃ settings pr, Loads s token settings pr ∧ IsClear (script.answer 0)

/-- The pull request is refused: all that a run needs loads, there are objections, and their report
gets to be a comment. -/
def IsRefused (s : Surroundings) (token : Option Text) (script : Script) : Prop :=
  ∃ settings pr issues, Loads s token settings pr ∧ Refuses script issues

/-- What the check of a run comes to. -/
inductive Decision (s : Surroundings) (token : Option Text) (script : Script) :
    Except Failure Verdict → Prop where
  | opens {pr : PullRequest} (h : MayOpen s token script) : Decision s token script (.ok { pr })
  | refuses {v : Verdict} (h : IsRefused s token script) (hv : v.failed = true) :
    Decision s token script (.ok v)
  | fails (e : Failure) (hopen : ¬ MayOpen s token script) (hrefused : ¬ IsRefused s token script) :
    Decision s token script (.error e)

theorem IsRefused.not_mayOpen {s : Surroundings} {token : Option Text} {script : Script}
    (h : IsRefused s token script) : ¬ MayOpen s token script := by
  obtain ⟨_, _, issues, -, hrefuses⟩ := h
  rintro ⟨_, _, -, hclear⟩
  exact hrefuses.meets.not_clear hclear

theorem decision_of_not_loads {s : Surroundings} {token : Option Text}
    (h : ∀ settings pr, ¬ Loads s token settings pr) (script : Script) (e : Failure) :
    Decision s token script (.error e) := by
  refine .fails e ?_ ?_
  · rintro ⟨settings, pr, hloads, -⟩
    exact h settings pr hloads
  · rintro ⟨settings, pr, issues, hloads, -⟩
    exact h settings pr hloads

theorem decision_of_settings_error {s : Surroundings} {token : Option Text} {e : Settings.Error}
    (h : Settings.ofEnvironment s.environment token = .error e) (script : Script) :
    Decision s token script (.error (.settings e)) := by
  refine decision_of_not_loads ?_ script _
  intro settings pr hloads
  cases h.symm.trans hloads.settings_load

/-- A run with settings decides as its check does. -/
theorem decision_of_settings {s : Surroundings} {token : Option Text} {settings : Settings}
    (h : Settings.ofEnvironment s.environment token = .ok settings) (script : Script) :
    Decision s token script ((Validation.run s.packages.records s.workspace settings
      (clientOf settings)).runScript script).result := by
  cases hpr : Event.load s.packages.records s.workspace settings.eventPath settings.repository with
  | error e =>
    have hend : Ends Script.respond (Validation.run s.packages.records s.workspace settings
        (clientOf settings)) script [] (.error (.event e)) script := run_of_event_error hpr script
    rw [runScript, hend.result_eq]
    refine decision_of_not_loads ?_ script _
    intro settings' pr hloads
    cases h.symm.trans hloads.settings_load
    cases hpr.symm.trans hloads.event_loads
  | ok pr =>
    have hcourse : Course settings (clientOf settings) pr script _ _ :=
      run_takes_a_course hpr script
    rcases hcourse.result_cases with
      ⟨hclear, hr⟩ | ⟨issues, hrefuses, hr⟩ | ⟨hclear, hrefuses, e, hr⟩
    · rw [hr]
      exact .opens ⟨settings, pr, ⟨h, hpr⟩, hclear⟩
    · rw [hr]
      refine .refuses ⟨settings, pr, issues, ⟨h, hpr⟩, hrefuses⟩ ?_
      simpa [Verdict.failed] using hrefuses.meets.some_issue
    · rw [hr]
      refine .fails e ?_ ?_
      · rintro ⟨_, _, -, hclear'⟩
        exact hclear hclear'
      · rintro ⟨_, _, issues, -, hrefuses'⟩
        exact hrefuses ⟨issues, hrefuses'⟩

/-- Every run comes to a decision and ends as that says. -/
theorem run_decides (s : Surroundings) (verbose : Bool) (token : Option Text) (script : Script) :
    ∃ level r, ((Gate.run s verbose token).runScript script).result =
      .ok (ending s.packages.console level r) ∧ Decision s token script r := by
  obtain ⟨level, hend⟩ := run_ends s verbose token script
  refine ⟨level, _, hend.result_eq, ?_⟩
  unfold check
  cases hset : Settings.ofEnvironment s.environment token with
  | error e => exact decision_of_settings_error hset script
  | ok settings => exact decision_of_settings hset script

/-! ## The law -/

/-- The output of a run annotates the workflow with a message: behind nothing or one line with a
warning stands the annotation, and behind it the message once more. -/
def Annotates (c : Console) (output message : Text) : Prop :=
  ∃ front, (front = [] ∨ ∃ w, front = c.line .warning w) ∧
    output = front ++ "::error::".toList ++ c.echo message ++ c.line .failure message

/-- How every run ends. -/
structure EndsAsDecided (s : Surroundings) (token : Option Text) (script : Script) (e : Ending) :
    Prop where
  nothing_escapes : e.escaped = none
  code_eq : e.code = 0 ∨ e.code = 1
  opens_iff : e.code = 0 ↔ MayOpen s token script
  opens_with_one_line : e.code = 0 → e.output = s.packages.console.line .success clearance ∧
    (46 ≤ s.packages.console.columns →
      e.output = "✓ No version pinning or migration issues found\n".toList)
  annotates : e.code = 1 → ∃ message, Annotates s.packages.console e.output message ∧
    (message = refusal ↔ IsRefused s token script) ∧
    (message ≠ refusal → ∃ f : Failure, message = "Action failed: ".toList ++ f.message)
  shows_refusal : IsRefused s token script → ∃ w, e.output = s.packages.console.line .warning w ++
    "::error::".toList ++ refusal ++ '\n' :: s.packages.console.line .failure refusal
  shows_failure : e.code = 1 → ¬ IsRefused s token script →
    "::error::Action failed: ".toList <+: e.output

theorem annotate_eq (c : Console) (message : Text) :
    annotate c message = "::error::".toList ++ c.echo message ++ c.line .failure message := by
  unfold annotate
  rw [c.echo_append (by decide)]

theorem annotate_refusal (c : Console) : annotate c refusal =
    "::error::".toList ++ refusal ++ '\n' :: c.line .failure refusal := by
  rw [annotate_eq, c.echo_of_plain (by decide)]
  simp only [List.append_assoc, List.cons_append, List.nil_append]

theorem annotate_failed (c : Console) (t : Text) :
    "::error::Action failed: ".toList <+: annotate c ("Action failed: ".toList ++ t) := by
  rw [annotate_eq, c.echo_append (by decide)]
  exact ⟨_, rfl⟩

theorem failed_ne_refusal (t : Text) : "Action failed: ".toList ++ t ≠ refusal := by
  intro h
  have hleft : ("Action failed: ".toList ++ t).head? = some 'A' := rfl
  have hright : refusal.head? = some '❌' := rfl
  rw [h, hright] at hleft
  exact absurd hleft (by decide)

theorem clearance_line {c : Console} (h : 46 ≤ c.columns) :
    c.line .success clearance = "✓ No version pinning or migration issues found\n".toList := by
  have hlength : clearance.length + 2 = 46 := by decide +kernel
  rw [c.line_of_isWords (by decide +kernel) (hlength ▸ h)]
  decide +kernel

section

variable {s : Surroundings} {token : Option Text} {script : Script}

theorem endsAsDecided_of_mayOpen (level : Level) (pr : PullRequest) (h : MayOpen s token script) :
    EndsAsDecided s token script (ending s.packages.console level (.ok { pr })) where
  nothing_escapes := rfl
  code_eq := .inl rfl
  opens_iff := by simp [ending, Verdict.failed, h]
  opens_with_one_line := fun _ => ⟨rfl, clearance_line⟩
  annotates := by simp [ending, Verdict.failed]
  shows_refusal := fun hrefused => absurd h hrefused.not_mayOpen
  shows_failure := by simp [ending, Verdict.failed]

theorem endsAsDecided_of_isRefused (level : Level) {v : Verdict} (h : IsRefused s token script)
    (hv : v.failed = true) :
    EndsAsDecided s token script (ending s.packages.console level (.ok v)) := by
  let c := s.packages.console
  have hcode : (ending c level (.ok v)).code = 1 := by simp [ending, hv]
  obtain ⟨w, hw⟩ : ∃ w, countLine c v = c.line .warning w := ⟨_, rfl⟩
  have houtput : (ending c level (.ok v)).output = c.line .warning w ++ annotate c refusal := by
    simp [ending, verdictOutput, hv, hw]
  exact {
    nothing_escapes := rfl
    code_eq := .inr hcode
    opens_iff := by simp [c, hcode, h.not_mayOpen]
    opens_with_one_line := by simp [c, hcode]
    annotates := fun _ => by
      refine ⟨refusal, ⟨c.line .warning w, .inr ⟨w, rfl⟩, ?_⟩, iff_of_true rfl h,
        fun hne => absurd rfl hne⟩
      rw [houtput, annotate_eq]
      simp only [List.append_assoc]
      rfl
    shows_refusal := fun _ => by
      refine ⟨w, ?_⟩
      rw [houtput, annotate_refusal]
      simp only [List.append_assoc]
      rfl
    shows_failure := fun _ hno => absurd h hno }

theorem endsAsDecided_of_failure (level : Level) (e : Failure) (hopen : ¬ MayOpen s token script)
    (hrefused : ¬ IsRefused s token script) :
    EndsAsDecided s token script (ending s.packages.console level (.error e)) where
  nothing_escapes := rfl
  code_eq := .inr rfl
  opens_iff := by simp [ending, hopen]
  opens_with_one_line := by simp [ending]
  annotates := fun _ =>
    ⟨"Action failed: ".toList ++ e.message, ⟨[], .inl rfl, annotate_eq _ _⟩,
      iff_of_false (failed_ne_refusal _) hrefused, fun _ => ⟨e, rfl⟩⟩
  shows_refusal := fun h => absurd h hrefused
  shows_failure := fun _ _ => annotate_failed _ _

end

/-- Every run ends without a failure that it does not deal with. It ends with exit code zero and one
line when everything loads and the diff is clear, and in no other case; else it annotates the
workflow, with the refusal when there are objections that got to be a comment, and with what failed
otherwise. -/
theorem the_gate_opens_for_clear_diffs_alone (s : Surroundings) (verbose : Bool)
    (token : Option Text) (script : Script) :
    ∃ e, ((perform s (runArguments verbose token)).runScript script).result = .ok e ∧
      EndsAsDecided s token script e := by
  obtain ⟨level, r, hr, hdecision⟩ := run_decides s verbose token script
  rw [perform_runArguments]
  refine ⟨ending s.packages.console level r, hr, ?_⟩
  cases hdecision with
  | opens h => exact endsAsDecided_of_mayOpen level _ h
  | refuses h hv => exact endsAsDecided_of_isRefused level h hv
  | fails e hopen hrefused => exact endsAsDecided_of_failure level e hopen hrefused

end Gate

end PinGate.CommandLine
