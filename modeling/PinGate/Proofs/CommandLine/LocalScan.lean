-- How a scan of the local repository ends. A diff that a call ended well with is passed exactly when
-- it can be read and meets no objections. The scan does not fail closed, though: a call that comes
-- to no end leaves it without a diff, and without a diff there is nothing to refuse.
import PinGate.Proofs.CommandLine.Scan
import PinGate.Proofs.LocalDiff

namespace PinGate.CommandLine.Scan

open Text Terminal Dialogue Diff LocalDiff

/-- Whether a diff can be read and meets no objections. -/
def IsClear (diff : Text) : Prop :=
  ∃ files, Diff.read diff = .ok files ∧ analyzeFiles files = []

theorem ending_code (c : Console) (level : Level) (format : Format) (diff : Text) :
    ((ending c level format (Diff.read diff)).code = 0 ∨
      (ending c level format (Diff.read diff)).code = 1) ∧
    ((ending c level format (Diff.read diff)).code = 0 ↔ IsClear diff) := by
  unfold IsClear
  cases Diff.read diff with
  | error e => simp [ending_error_code]
  | ok files =>
    unfold ending
    by_cases h : analyzeFiles files = []
    · simp [h]
    · simp [h]

/-! ## From the repository to its diff -/

/-- Whether something stands at the path of a repository. -/
def IsThere (w : Workspace) (path : Text) : Prop :=
  w.lookUpSettled path = .directory ∨ ∃ content, w.lookUpSettled path = .file content

/-- The end of a scan of what a fetch came to. -/
def endingOf (c : Console) (level : Level) (format : Format) : Except Failure Text → Ending
  | .ok diff => ending c level format (Diff.read diff)
  | .error e => Ending.escape level e

section

variable {σ : Type} {respond : Call → σ → Outcome × σ} {c : Console} {w : Workspace}
  {o : ScanOptions} {st st' : σ}

/-- A scan of what is not there calls nobody and fails. -/
theorem ofRepository_of_not_isThere (h : ¬ IsThere w o.path) (level : Level) (st : σ) :
    ∃ e, Ends respond (ofRepository c w level o) st [] (.ok e) st ∧ e.code = 1 := by
  unfold IsThere at h
  unfold ofRepository
  cases hentry : w.lookUpSettled o.path with
  | missing => exact ⟨_, Ends.done _ st, rfl⟩
  | directory => exact absurd (.inl hentry) h
  | file content => exact absurd (.inr ⟨content, hentry⟩) h
  | nameTooLong => exact ⟨_, Ends.done _ st, rfl⟩
  | unnameable => exact ⟨_, Ends.done _ st, rfl⟩

/-- A scan of what is there ends as the fetch of its diff says. -/
theorem ofRepository_of_isThere (h : IsThere w o.path) (level : Level) {calls : List Call}
    {r : Except Failure Text}
    (hfetch : Ends respond (LocalDiff.fetch (settled o.path) o.base) st calls r st') :
    Ends respond (ofRepository c w level o) st calls (.ok (endingOf c level o.format r)) st' := by
  have hnext : Ends respond (ofFetched c level o.format r) st' []
      (.ok (endingOf c level o.format r)) st' := by
    cases r with
    | ok diff => exact ofDiff_ends respond c level o.format diff st'
    | error e => exact Ends.done _ st'
  have hend := hfetch.andThen hnext
  rw [List.append_nil] at hend
  unfold ofRepository
  rcases h with h | ⟨content, h⟩
  · rw [h]
    exact hend
  · rw [h]
    exact hend

end

section

variable {s : Surroundings} {o : ScanOptions} (h : o.source = none)

include h

theorem run_of_not_isThere (hthere : ¬ IsThere s.workspace o.path) (verbose : Bool)
    (script : Script) :
    ∃ e, Ends Script.respond (Scan.run s verbose o) script [] (.ok e) script ∧ e.code = 1 := by
  obtain ⟨e, hend, hcode⟩ := ofRepository_of_not_isThere hthere _ script
  refine ⟨e, ?_, hcode⟩
  unfold Scan.run
  rw [h]
  exact hend.keeping _

theorem run_of_fetch (hthere : IsThere s.workspace o.path) (verbose : Bool)
    {script rest : Script} {calls : List Call} {r : Except Failure Text}
    (hfetch : Ends Script.respond (fetch (settled o.path) o.base) script calls r rest) :
    ∃ level, Ends Script.respond (Scan.run s verbose o) script calls
      (.ok (endingOf s.packages.console level o.format r)) rest := by
  let level := Scan.level (verbose || Settings.runnerDebug s.environment)
  refine ⟨level, ?_⟩
  unfold Scan.run
  rw [h]
  exact (ofRepository_of_isThere hthere level hfetch).keeping level

end

/-! ## The answers that decide -/

/-- The answer to the last of some calls. -/
def lastAnswer? (script : Script) (calls : List Call) : Option Outcome :=
  (script.answers calls.length).getLast?

/-- Whether a run passes nothing but a clear diff that its last call gave and ended well with. -/
def FailsClosed (script : Script) (t : Transcript Script Empty Ending) : Prop :=
  ∀ e, t.result = .ok e → e.code = 0 → ∃ output errors,
    lastAnswer? script t.calls = some (.finished 0 output errors) ∧ IsClear output

/-- How a local scan ends, as the answers to its calls decide. What it makes of a clear diff that
comes with another exit code than zero is left open. -/
structure EndsAsFetched (w : Workspace) (o : ScanOptions) (script : Script) (calls : List Call)
    (e : Ending) : Prop where
  code_eq : e.code = 0 ∨ e.code = 1
  calls_eq : calls = [] ∨ calls = [branchCall (settled o.path) o.base] ∨
    calls = [branchCall (settled o.path) o.base, directCall (settled o.path) o.base]
  calls_nobody_iff : calls = [] ↔ ¬ IsThere w o.path
  calls_twice_iff :
    calls = [branchCall (settled o.path) o.base, directCall (settled o.path) o.base] ↔
      IsThere w o.path ∧ EndedBadly (script.answer 0)
  passes_only : e.code = 0 → ∃ answer, lastAnswer? script calls = some answer ∧
    (IsCutOff answer ∨ ∃ code output errors, answer = .finished code output errors ∧
      IsClear output)
  passes_cutOff : ∀ answer, lastAnswer? script calls = some answer → IsCutOff answer → e.code = 0
  passes_iff : ∀ output errors, lastAnswer? script calls = some (.finished 0 output errors) →
    (e.code = 0 ↔ IsClear output)
  escapes : ∀ told, lastAnswer? script calls = some (.raised told) →
    e.code = 1 ∧ e.escaped = some (.call told)

theorem isClear_nil : IsClear [] := ⟨[], rfl, rfl⟩

section

variable {w : Workspace} {o : ScanOptions} {script : Script} {root base : Text} {calls : List Call}
  {r : Except Failure Text} {e : Ending}

/-- A fetch comes to what the last answer gives. -/
theorem lastAnswer?_of_course (h : Course root base script calls r) :
    ∃ answer, lastAnswer? script calls = some answer ∧ Gives answer r := by
  unfold lastAnswer?
  cases h with
  | branch _ h => exact ⟨_, rfl, h⟩
  | direct _ h => exact ⟨_, rfl, h⟩

theorem gives_of_course (h : Course root base script calls r) {answer : Outcome}
    (hlast : lastAnswer? script calls = some answer) : Gives answer r := by
  obtain ⟨answer', hlast', hgives⟩ := lastAnswer?_of_course h
  obtain rfl := Option.some.inj (hlast'.symm.trans hlast)
  exact hgives

/-- There is a second call exactly when the first one ended badly. -/
theorem calls_of_course (h : Course root base script calls r) :
    calls = [branchCall root base] ∧ ¬ EndedBadly (script.answer 0) ∨
      calls = [branchCall root base, directCall root base] ∧ EndedBadly (script.answer 0) := by
  cases h with
  | branch hend _ => exact .inl ⟨rfl, hend⟩
  | direct hbranch _ => exact .inr ⟨rfl, hbranch⟩

theorem endsAsFetched_of_course (hthere : IsThere w o.path)
    (h : Course (settled o.path) o.base script calls r) (c : Console) (level : Level) :
    EndsAsFetched w o script calls (endingOf c level o.format r) where
  code_eq := by
    cases r with
    | ok diff => exact (ending_code c level o.format diff).1
    | error f => exact .inr rfl
  calls_eq := by
    rcases calls_of_course h with ⟨hcalls, -⟩ | ⟨hcalls, -⟩
    · exact .inr (.inl hcalls)
    · exact .inr (.inr hcalls)
  calls_nobody_iff := by
    rcases calls_of_course h with ⟨rfl, -⟩ | ⟨rfl, -⟩
    · simp [hthere]
    · simp [hthere]
  calls_twice_iff := by
    rcases calls_of_course h with ⟨rfl, hgood⟩ | ⟨rfl, hbad⟩
    · simp [hgood]
    · simp [hthere, hbad]
  passes_only hzero := by
    obtain ⟨answer, hlast, hgives⟩ := lastAnswer?_of_course h
    refine ⟨answer, hlast, ?_⟩
    cases hgives with
    | @output code diff errors =>
      exact .inr ⟨code, diff, errors, rfl, (ending_code c level o.format diff).2.1 hzero⟩
    | nothing hcut => exact .inl hcut
    | error => cases hzero
  passes_cutOff answer hlast hcut := by
    rw [(gives_of_course h hlast).eq_nil hcut]
    exact (ending_code c level o.format []).2.2 isClear_nil
  passes_iff output errors hlast := by
    rw [(gives_of_course h hlast).eq_output]
    exact (ending_code c level o.format output).2
  escapes told hlast := by
    rw [(gives_of_course h hlast).eq_error]
    exact ⟨rfl, rfl⟩

/-- Where nothing is there, a scan has failed before it could call. -/
theorem endsAsFetched_of_not_isThere (hthere : ¬ IsThere w o.path) (hcode : e.code = 1) :
    EndsAsFetched w o script [] e where
  code_eq := .inr hcode
  calls_eq := .inl rfl
  calls_nobody_iff := by simp [hthere]
  calls_twice_iff := by simp [hthere]
  passes_only hzero := by omega
  passes_cutOff _ hlast := by cases hlast
  passes_iff _ _ hlast := by cases hlast
  escapes _ hlast := by cases hlast

end

/-! ## How a local scan ends -/

/-- A local scan always ends. It passes only a clear diff, or when a call came to no end and so
there was no diff; and where the last call ended well, it passes exactly the clear diffs. -/
theorem a_local_scan_ends_as_fetched (s : Surroundings) (verbose : Bool) {o : ScanOptions}
    (h : o.source = none) (script : Script) :
    ∃ e, (((⟨verbose, .scan o⟩ : Invocation).perform s).runScript script).result = .ok e ∧
      EndsAsFetched s.workspace o script
        (((⟨verbose, .scan o⟩ : Invocation).perform s).runScript script).calls e := by
  have hrun : (((⟨verbose, .scan o⟩ : Invocation).perform s).runScript script) =
    (Scan.run s verbose o).run Script.respond script := rfl
  rw [hrun]
  by_cases hthere : IsThere s.workspace o.path
  · obtain ⟨calls, r, rest, hfetch, hcourse⟩ :=
      fetch_takes_a_course (settled o.path) o.base script
    obtain ⟨level, hend⟩ := run_of_fetch h hthere verbose hfetch
    rw [hend.calls_eq]
    exact ⟨_, hend.result_eq, endsAsFetched_of_course hthere hcourse s.packages.console level⟩
  · obtain ⟨e, hend, hcode⟩ := run_of_not_isThere h hthere verbose script
    rw [hend.calls_eq]
    exact ⟨e, hend.result_eq, endsAsFetched_of_not_isThere hthere hcode⟩

/-- No common commit, and then a diff to the base that adds an image without a tag: the second call
decides, and the scan refuses. -/
theorem the_second_call_decides :
    let s : Surroundings := { packages := .standard, workspace := { files := [] } }
    let o : ScanOptions := { base := "v1".toList }
    let diff := ("diff --git a/Dockerfile b/Dockerfile\n+++ b/Dockerfile\n" ++
      "@@ -0,0 +1 @@\n+FROM node\n").toList
    let script : Script := [.finished 128 [] "no merge base".toList, .finished 0 diff []]
    let t := ((⟨true, .scan o⟩ : Invocation).perform s).runScript script
    o.source = none ∧ t.calls = [branchCall [] "v1".toList, directCall [] "v1".toList] ∧
      ¬ IsClear diff ∧
      ∃ e, t.result = .ok e ∧ e.code = 1 ∧ EndsAsFetched s.workspace o script t.calls e := by
  intro s o diff script t
  have hthere : IsThere s.workspace o.path := .inl (by decide +kernel)
  have hbad : EndedBadly (script.answer 0) := ⟨128, [], "no merge base".toList, rfl, by decide⟩
  obtain ⟨e, hresult, hend⟩ := a_local_scan_ends_as_fetched s true (o := o) rfl script
  have hcalls : t.calls = [branchCall [] "v1".toList, directCall [] "v1".toList] :=
    hend.calls_twice_iff.2 ⟨hthere, hbad⟩
  have hlast : lastAnswer? script t.calls = some (.finished 0 diff []) := by
    rw [hcalls]
    rfl
  have hcode : t.result.toOption.map Ending.code = some 1 := by decide +kernel
  rw [hresult] at hcode
  have hone : e.code = 1 := Option.some.inj hcode
  refine ⟨rfl, hcalls, ?_, e, hresult, hone, hend⟩
  rw [← hend.passes_iff diff [] hlast, hone]
  decide

/-- Where there is no git, a scan passes without a diff. -/
theorem a_missing_git_passes :
    let s : Surroundings := { packages := .standard, workspace := { files := [] } }
    let script : Script := [.notFound]
    ¬ FailsClosed script (((⟨false, .scan {}⟩ : Invocation).perform s).runScript script) := by
  intro s script hclosed
  obtain ⟨output, errors, hlast, -⟩ := hclosed _ rfl (by decide +kernel)
  cases hlast

end PinGate.CommandLine.Scan
