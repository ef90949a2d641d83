-- The scan and the check agree. A diff that is scanned from the input or from a file meets the same
-- objections as one that is fetched for a pull request, fails to be read with the same error, and
-- ends the scan with exit code one exactly when it ends the check badly, in every format.
import PinGate.CommandLine.Command
import PinGate.Proofs.CallProtocol
import PinGate.Proofs.Diff.Lines

namespace PinGate.CommandLine.Scan

open Text Terminal Dialogue Diff

/-! ## How a scan ends -/

/-- The text that a scan takes for a diff: the input, or the text of a file. -/
inductive Reads (s : Surroundings) (o : ScanOptions) : Text → Prop where
  | input (h : o.source = some ['-']) : Reads s o s.input
  | file {path diff : Text} (h : o.source = some path) (hne : path ≠ ['-'])
    (hfile : s.workspace.readFile? path = some (.ok diff)) : Reads s o diff

section

variable (c : Console) (level : Level) (format : Format)

/-- The end of a scan whose diff was read, or was not. -/
def ending : Except Diff.Error (List ChangedFile) → Ending
  | .error e =>
    if (Failure.diff e).isForeseen then { code := 1, output := c.line .failure e.message, level }
    else Ending.escape level (.diff e)
  | .ok files => {
      code := if (analyzeFiles files).isEmpty then 0 else 1
      output := resultOutput c format files (analyzeFiles files)
      level }

theorem ending_error_code (e : Diff.Error) : (ending c level format (.error e)).code = 1 := by
  rw [ending]
  split
  · rfl
  · rfl

end

variable {σ : Type} (respond : Call → σ → Outcome × σ)

theorem ofDiff_ends (c : Console) (level : Level) (format : Format) (diff : Text) (st : σ) :
    Ends respond (ofDiff c level format diff) st []
      (.ok (ending c level format (Diff.read diff))) st := by
  refine Ends.behind_record _ ?_
  cases Diff.read diff with
  | error e =>
    dsimp only [ending]
    split
    · exact Ends.done _ st
    · exact Ends.done _ st
  | ok files => exact Ends.behind_record _ (Ends.done _ st)

/-- A scan calls nobody and ends as what it reads says. -/
theorem run_ends {s : Surroundings} {o : ScanOptions} {diff : Text} (h : Reads s o diff)
    (verbose : Bool) (st : σ) :
    ∃ level, Ends respond (Scan.run s verbose o) st []
      (.ok (ending s.packages.console level o.format (Diff.read (unifyBreaks diff)))) st := by
  let level := Scan.level (verbose || Settings.runnerDebug s.environment)
  have hend : Ends respond (ofDiff s.packages.console level o.format (unifyBreaks diff)) st []
      (.ok (ending s.packages.console level o.format (Diff.read (unifyBreaks diff)))) st :=
    ofDiff_ends respond _ level _ _ st
  refine ⟨level, ?_⟩
  unfold Scan.run
  refine Ends.keeping level ?_
  cases h with
  | input h =>
    rw [h]
    exact hend
  | file h hne hfile =>
    rw [h]
    dsimp only
    rw [if_neg hne, ofFile, hfile]
    exact hend

/-! ## Agreement -/

/-- What the end of a scan has to do with what a check of the same diff comes to. -/
structure Agrees (c : Console) (format : Format) (diff : Text) (r : Except Failure Verdict)
    (e : Ending) : Prop where
  same_issues : ∀ v, r = .ok v → ∃ files, Diff.read (unifyBreaks diff) = .ok files ∧
    analyzeFiles files = v.issues ∧ e.output = resultOutput c format files v.issues ∧
    e.escaped = none
  lists_issues : format = .json → ∀ v, r = .ok v → ∃ records,
    e.output = c.echo (Json.write (.object [("files".toList, records),
      ("issues".toList, .array (v.issues.map fun i => .string i.message))]))
  same_error : ∀ f, r = .error f ↔
    ∃ err, Diff.read (unifyBreaks diff) = .error err ∧ f = .diff err
  tells_error : ∀ f, r = .error f →
    if f.isForeseen then e.output = c.line .failure f.message ∧ e.escaped = none
    else e.escaped = some f
  refuses_iff : e.code = 1 ↔ (∃ f, r = .error f) ∨ ∃ v, r = .ok v ∧ v.failed = true
  passes_iff : e.code = 0 ↔ ∃ v, r = .ok v ∧ v.failed = false

theorem agrees_of_error (c : Console) (level : Level) (format : Format) {diff : Text}
    {err : Diff.Error} (h : Diff.read (unifyBreaks diff) = .error err) :
    Agrees c format diff (.error (.diff err)) (ending c level format (.error err)) where
  same_issues := by simp
  lists_issues := by simp
  same_error f := by
    constructor
    · intro hf
      exact ⟨err, h, (Except.error.inj hf).symm⟩
    · rintro ⟨err', h', rfl⟩
      rw [Except.error.inj (h'.symm.trans h)]
  tells_error f hf := by
    obtain rfl := Except.error.inj hf
    rw [ending]
    split
    · exact ⟨rfl, rfl⟩
    · rfl
  refuses_iff := by simp [ending_error_code]
  passes_iff := by simp [ending_error_code]

theorem agrees_of_ok (c : Console) (level : Level) (format : Format) {diff : Text}
    {files : List ChangedFile} (h : Diff.read (unifyBreaks diff) = .ok files) {v : Verdict}
    (hv : v.issues = analyzeFiles files) :
    Agrees c format diff (.ok v) (ending c level format (.ok files)) where
  same_issues _ hok := by
    obtain rfl := Except.ok.inj hok
    exact ⟨files, h, hv.symm, by rw [hv]; rfl, rfl⟩
  lists_issues hjson _ hok := by
    obtain rfl := Except.ok.inj hok
    refine ⟨.array (files.map fileRecord), ?_⟩
    rw [hv, hjson]
    rfl
  same_error f := by simp [h]
  tells_error := by simp
  refuses_iff := by simp [ending, Verdict.failed, hv]
  passes_iff := by simp [ending, Verdict.failed, hv]

/-- The end of a scan and a result agree when the objections do, or the errors. -/
theorem agrees_of_issues_eq (c : Console) (level : Level) (format : Format) {diff : Text}
    {r : Except Failure Verdict} (h : r.map Verdict.issues =
      ((Diff.read (unifyBreaks diff)).mapError Failure.diff).map analyzeFiles) :
    Agrees c format diff r (ending c level format (Diff.read (unifyBreaks diff))) := by
  cases hread : Diff.read (unifyBreaks diff) with
  | error err =>
    rw [hread] at h
    cases r with
    | error f =>
      obtain rfl : f = .diff err := Except.error.inj h
      exact agrees_of_error c level format hread
    | ok v => cases h
  | ok files =>
    rw [hread] at h
    cases r with
    | error f => cases h
    | ok v => exact agrees_of_ok c level format hread (Except.ok.inj h)

/-- A scan of a diff agrees with a check of a pull request that has this diff, when the event of the
check names the pull request and all its calls are answered well, and when the carriage returns of
the diff end lines. -/
theorem a_scan_agrees_with_the_check {s : Surroundings} {o : ScanOptions} {diff : Text}
    (hreads : Reads s o diff) (hreturns : ReturnsEndLines diff) {w : Workspace}
    {records : RecordCheck} {settings : Settings} {pr : PullRequest}
    (hpr : Event.load records w settings.eventPath settings.repository = .ok pr) {script : Script}
    (hdiff : (script.answer 0).output? = some diff)
    (hlater : ∀ n, (script.answer (n + 1)).output? ≠ none) (client : GitHub.Client)
    (verbose : Bool) (other : Script) :
    ∃ e, (((⟨verbose, .scan o⟩ : Invocation).perform s).runScript other).result = .ok e ∧
      Agrees s.packages.console o.format diff
        ((Validation.run records w settings client).runScript script).result e := by
  have hcourse : Validation.Course settings client pr script _ _ :=
    Validation.run_takes_a_course hpr script
  have hissues := hcourse.issues_eq hdiff hlater
  rw [← read_unifyBreaks hreturns] at hissues
  obtain ⟨level, hend⟩ := run_ends Script.respond hreads verbose other
  exact ⟨_, hend.result_eq, agrees_of_issues_eq _ level o.format hissues⟩

/-- A new image without a tag, in a diff with carriage returns: the scan refuses it from the input
as the check does on the pull request. -/
theorem a_diff_with_returns_is_refused_twice :
    let diff := ("diff --git a/Dockerfile b/Dockerfile\r\n+++ b/Dockerfile\r\n" ++
      "@@ -0,0 +1 @@\r\n+FROM node\r\n").toList
    let w : Workspace := { files := [("event".toList, toBytes "\x7b\"number\": 7\x7d".toList)] }
    let s : Surroundings := { packages := .standard, workspace := w, input := diff }
    let o : ScanOptions := { source := some ['-'], format := .json }
    let settings : Settings := {
      token := "t".toList
      eventPath := some "event".toList
      repository := some "o/r".toList }
    let script : Script := [.finished 0 diff []]
    let client := Validation.clientOf settings
    let r := ((Validation.run .standard w settings client).runScript script).result
    ReturnsEndLines diff ∧
      Event.load .standard w settings.eventPath settings.repository =
        .ok ⟨"o".toList, "r".toList, 7⟩ ∧
      ∃ e, (((⟨false, .scan o⟩ : Invocation).perform s).runScript []).result = .ok e ∧
        e.code = 1 ∧ Agrees .standard .json diff r e := by
  intro diff w s o settings script client r
  have hpr : Event.load .standard w settings.eventPath settings.repository =
      .ok ⟨"o".toList, "r".toList, 7⟩ := by
    have hload : (Event.load .standard w settings.eventPath settings.repository).toOption =
        some ⟨"o".toList, "r".toList, 7⟩ := by decide +kernel
    cases h : Event.load .standard w settings.eventPath settings.repository with
    | error e => simp [h, Except.toOption] at hload
    | ok pr =>
      rw [h] at hload
      rw [Option.some.inj hload]
  have hlater : ∀ n, (script.answer (n + 1)).output? ≠ none := by
    intro n
    cases n <;> nofun
  have hreturns : ReturnsEndLines diff := by decide +kernel
  have hreads : Reads s o diff := .input rfl
  have hdiff : (script.answer 0).output? = some diff := rfl
  obtain ⟨e, he, hagrees⟩ := a_scan_agrees_with_the_check hreads hreturns hpr hdiff hlater
    client false []
  have hfailed : ∃ v, r = .ok v ∧ v.failed = true := by
    have hany : r.toOption.any Verdict.failed = true := by decide +kernel
    cases hr : r with
    | error f => simp [hr, Except.toOption] at hany
    | ok v => exact ⟨v, rfl, by simpa [hr, Except.toOption] using hany⟩
  exact ⟨hreturns, hpr, e, he, hagrees.refuses_iff.2 (.inr hfailed), hagrees⟩

end PinGate.CommandLine.Scan
