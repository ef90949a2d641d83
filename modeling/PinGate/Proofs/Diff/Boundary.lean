-- The laws of the boundary between two files of a diff. The line that starts a file forgets all
-- that the lines before it left open, so a diff that stands behind another one is read as if it
-- stood alone, and its objections come behind those of the other.
import PinGate.Analysis
import PinGate.Proofs.Diff.Steps

namespace PinGate.Diff

open Text

/-! ## States behind other files -/

namespace State

/-- The state with more complete files in front. -/
def behind (files : List ChangedFile) (s : State) : State :=
  { s with files := files.toArray ++ s.files }

@[simp]
theorem allFiles_behind (files : List ChangedFile) (s : State) :
    (s.behind files).allFiles = files ++ s.allFiles := by
  simp [allFiles, behind]

theorem openFile_behind (files : List ChangedFile) (s : State) (path : Text) :
    (s.behind files).openFile path = (s.openFile path).behind files := by
  simp [openFile, behind, Array.append_assoc]

/-- No line looks at the files that are complete. -/
theorem header_behind (files : List ChangedFile) (s : State) (line : Text) :
    (s.behind files).header line = (s.header line).map (behind files) := by
  unfold header
  split
  · rw [openFile_behind]
    rfl
  · cases hd : s.draft with
    | none => simp [behind, hd, Except.map]
    | some d =>
      simp only [behind, hd]
      cases d.header line with
      | error e => rfl
      | ok r => rfl

theorem step_behind (files : List ChangedFile) (s : State) (line : Text) :
    (s.behind files).step line = (s.step line).map (behind files) := by
  rcases step_cases s line with ⟨ho, hl, hs⟩ | ⟨kind, ho, hk, hs⟩ | ⟨ho, hs⟩
  · rw [hs]
    exact step_of_remark ho hl
  · rw [hs]
    exact step_of_kind ho hk
  · rw [hs, ← header_behind]
    exact step_of_header ho

/-- A line that starts a file leads to the same state as a fresh start, behind all files so far. -/
theorem step_start_eq_behind (s : State) {line : Text}
    (h : startsWith "diff --git".toList line = true) :
    s.step line = (start.step line).map (behind s.allFiles) := by
  rw [step_of_start h, step_of_start h]
  simp [Except.map, openFile, behind, start, allFiles]

theorem foldlM_behind (files : List ChangedFile) (s : State) (ls : List Text) :
    ls.foldlM step (s.behind files) = (ls.foldlM step s).map (behind files) := by
  have h : SameEnd (fun a b => a = behind files b) (ls.foldlM step (s.behind files))
      (ls.foldlM step s) := by
    refine SameEnd.foldlM (L := Eq) ?_ (List.forall₂_same.2 fun _ _ => rfl) rfl
    rintro _ b l _ rfl rfl
    rw [step_behind]
    cases b.step l with
    | ok t => exact .ok rfl
    | error e => exact .error e
  simpa [Except.map_id] using h.map_eq (f := id)

end State

/-! ## The laws -/

theorem linesOf_of_start {b : Text} (h : startsWith "diff --git".toList b = true) :
    ∃ l ls, linesOf b = l :: ls ∧ startsWith "diff --git".toList l = true := by
  obtain ⟨t, rfl⟩ := List.isPrefixOf_iff_prefix.1 h
  obtain ⟨l, ls, hl⟩ := linesOf_prefix (p := "diff --git".toList) (by decide) (by decide) t
  exact ⟨_, ls, hl, List.isPrefixOf_iff_prefix.2 ⟨l, rfl⟩⟩

theorem read_behind (a : Text) {b : Text} (hb : startsWith "diff --git".toList b = true) :
    Diff.read (a ++ '\n' :: b) = do
      let fs ← Diff.read a
      let gs ← Diff.read b
      return fs ++ gs := by
  obtain ⟨l, ls, hls, hl⟩ := linesOf_of_start hb
  unfold Diff.read
  rw [linesOf_append, List.foldlM_append, hls]
  cases (linesOf a).foldlM State.step State.start with
  | error e => rfl
  | ok s =>
    have hrest : (l :: ls).foldlM State.step s =
        ((l :: ls).foldlM State.step State.start).map (State.behind s.allFiles) := by
      rw [List.foldlM_cons, List.foldlM_cons, State.step_start_eq_behind s hl,
        State.step_of_start hl]
      exact State.foldlM_behind _ _ ls
    change (l :: ls).foldlM State.step s >>= _ = _
    rw [hrest]
    cases (l :: ls).foldlM State.step State.start with
    | error e => rfl
    | ok t => exact congrArg Except.ok (State.allFiles_behind _ t)

/-- A diff that starts a file, behind any text on a line of its own: an error of the text in front
is told first, then one of the diff itself, and the files and objections of the two are those of
the text in front followed by those of the diff. -/
theorem files_behind_a_boundary_are_read_alone (a b : Text)
    (hb : startsWith "diff --git".toList b = true) :
    (Diff.read (a ++ '\n' :: b) = do
      let fs ← Diff.read a
      let gs ← Diff.read b
      return fs ++ gs) ∧
    ((Diff.read (a ++ '\n' :: b)).map analyzeFiles = do
      let fs ← Diff.read a
      let gs ← Diff.read b
      return analyzeFiles fs ++ analyzeFiles gs) := by
  refine ⟨read_behind a hb, ?_⟩
  rw [read_behind a hb]
  cases Diff.read a with
  | error e => rfl
  | ok fs =>
    cases Diff.read b with
    | error e => rfl
    | ok gs => exact congrArg Except.ok List.flatMap_append

/-- A hunk that is cut short, eight lines early, takes no line of the next file. -/
theorem a_hunk_cut_short_takes_no_line_behind_the_boundary :
    startsWith "diff --git".toList "diff --git a/y b/y\n@@ -0,0 +1 @@\n+b".toList = true ∧
    Diff.read ("diff --git a/x b/x\n@@ -1,9 +1,9 @@\n-a".toList ++ '\n' ::
        "diff --git a/y b/y\n@@ -0,0 +1 @@\n+b".toList) =
      .ok [⟨"x".toList, .modified, none, [⟨⟨1, 9, 1, 9⟩, [⟨.removed, "-a".toList⟩]⟩]⟩,
        ⟨"y".toList, .modified, none, [⟨⟨0, 0, 1, 1⟩, [⟨.added, "+b".toList⟩]⟩]⟩] :=
  ⟨by decide, (files_behind_a_boundary_are_read_alone _ _ (by decide)).1.trans (by decide +kernel)⟩

end PinGate.Diff
