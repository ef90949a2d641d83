-- The result of a scan as a document. Whatever characters the paths and the objections hold, the
-- output is one document and a line end, and the document says the files and the objections and
-- nothing else.
import PinGate.Proofs.CommandLine.LocalScan
import PinGate.Proofs.Json.RoundTrip

namespace PinGate.CommandLine.Scan

open Text Terminal Dialogue Diff

/-! ## The record of a result -/

theorem isFaithful_fileRecord (f : ChangedFile) : Json.IsFaithful (fileRecord f) := by
  refine Json.isFaithful_object ?_
  simp only [List.forall_mem_cons]
  exact ⟨Json.isFaithful_string _, Json.isFaithful_string _, Json.isFaithful_int _,
    Json.isFaithful_int _, by simp⟩

theorem isFaithful_resultRecord (files : List ChangedFile) (issues : List Finding) :
    Json.IsFaithful (resultRecord files issues) := by
  refine Json.isFaithful_object ?_
  simp only [List.forall_mem_cons]
  refine ⟨Json.isFaithful_array ?_, Json.isFaithful_array ?_, by simp⟩
  · rw [List.forall_mem_map]
    exact fun f _ => isFaithful_fileRecord f
  · rw [List.forall_mem_map]
    exact fun i _ => Json.isFaithful_string i.message

/-! ## The diff of a scan -/

/-- The text in which a scan looks for a diff, wherever it has it from. -/
inductive LooksAt (s : Surroundings) (o : ScanOptions) (script : Script) : Text → Prop where
  | given {diff : Text} (h : Reads s o diff) : LooksAt s o script (unifyBreaks diff)
  | fetched {diff : Text} (h : o.source = none) (hthere : IsThere s.workspace o.path)
    (hfetch : ((LocalDiff.fetch (settled o.path) o.base).runScript script).result = .ok diff) :
    LooksAt s o script diff

theorem run_of_looksAt {s : Surroundings} {o : ScanOptions} {script : Script} {diff : Text}
    (h : LooksAt s o script diff) (verbose : Bool) :
    ∃ level calls rest, Ends Script.respond (Scan.run s verbose o) script calls
      (.ok (ending s.packages.console level o.format (Diff.read diff))) rest := by
  cases h with
  | given h =>
    obtain ⟨level, hend⟩ := run_ends Script.respond h verbose script
    exact ⟨level, _, _, hend⟩
  | fetched h hthere hfetch =>
    obtain ⟨level, hend⟩ := run_of_fetch h hthere verbose ⟨rfl, hfetch, rfl⟩
    exact ⟨level, _, _, hend⟩

/-! ## The output -/

/-- A scan of a diff that can be read writes a document. It decodes to the files in order, each with
its path, its status and the numbers of its added and removed lines, and to the objections in order,
and to no other value. -/
theorem a_json_result_is_lossless {s : Surroundings} {o : ScanOptions} {script : Script}
    {diff : Text} {files : List ChangedFile} (hjson : o.format = .json)
    (hlooks : LooksAt s o script diff) (hread : Diff.read diff = .ok files) (verbose : Bool) :
    ∃ e document, (((⟨verbose, .scan o⟩ : Invocation).perform s).runScript script).result = .ok e ∧
      e.output = document ++ ['\n'] ∧ ∀ v, Json.Decodes document v ↔ v = .object [
        ("files".toList, .array (files.map fun f => .object [
          ("path".toList, .string f.path),
          ("status".toList, .string f.status.name),
          ("added".toList, .int (f.count .added)),
          ("deleted".toList, .int (f.count .removed))])),
        ("issues".toList, .array ((analyzeFiles files).map fun i => .string i.message))] := by
  obtain ⟨level, calls, rest, hend⟩ := run_of_looksAt hlooks verbose
  have hfaithful := isFaithful_resultRecord files (analyzeFiles files)
  refine ⟨_, Json.write (resultRecord files (analyzeFiles files)), hend.result_eq, ?_, ?_⟩
  · rw [hread, hjson]
    exact s.packages.console.echo_of_plain (hfaithful.plain 0)
  · intro v
    exact Json.decodes_write_iff hfaithful

/-- A path and a name with quotes, backslashes, controls, a line separator and a character beyond
the first plane. -/
theorem hostile_names_are_told_as_they_are :
    let path := "q\"\\\x00\u2028😀/Dockerfile".toList
    let image := "n\"o\\d\x07e".toList
    let diff := "diff --git a/x b/x\n+++ b/".toList ++ path ++
      "\n@@ -1 +1 @@\n-FROM node\n+FROM ".toList ++ image ++ ['\n']
    let files : List ChangedFile := [{
      path
      status := .modified
      oldPath := none
      hunks := [⟨⟨1, 1, 1, 1⟩,
        [⟨.removed, "-FROM node".toList⟩, ⟨.added, "+FROM ".toList ++ image⟩]⟩] }]
    let s : Surroundings := {
      packages := .standard
      workspace := { files := [] }
      input := diff }
    let o : ScanOptions := { source := some ['-'], format := .json }
    o.format = .json ∧ LooksAt s o [] diff ∧ Diff.read diff = .ok files ∧
      analyzeFiles files = [.baseUntagged image] ∧
      ∃ e document, (((⟨false, .scan o⟩ : Invocation).perform s).runScript []).result = .ok e ∧
        e.output = document ++ ['\n'] ∧ Json.Decodes document (.object [
          ("files".toList, .array [.object [
            ("path".toList, .string path),
            ("status".toList, .string "modified".toList),
            ("added".toList, .int 1),
            ("deleted".toList, .int 1)]]),
          ("issues".toList, .array [.string (Finding.baseUntagged image).message])]) := by
  intro path image diff files s o
  have hread : Diff.read diff = .ok files := by decide +kernel
  have hissues : analyzeFiles files = [.baseUntagged image] := by decide +kernel
  have hbreaks : unifyBreaks diff = diff := by decide +kernel
  have hlooks : LooksAt s o [] diff := hbreaks ▸ LooksAt.given (.input rfl)
  obtain ⟨e, document, hresult, houtput, hdecodes⟩ :=
    a_json_result_is_lossless rfl hlooks hread false
  refine ⟨rfl, hlooks, hread, hissues, e, document, hresult, houtput, (hdecodes _).2 ?_⟩
  rw [hissues]
  rfl

end PinGate.CommandLine.Scan
