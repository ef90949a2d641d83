-- The law of removed lines: what they say never counts. Two diffs that differ in the text of such
-- lines only are read into the same files, those texts apart, and meet the same objections. Two
-- states are compared by hiding these texts, and each line keeps what is left of them equal.
import PinGate.Analysis
import PinGate.Proofs.Diff.Steps

namespace PinGate.Diff

open Text

/-! ## Hiding what removed lines say -/

/-- A removed line without its text; any other line as it is. -/
def Line.hidden (l : Line) : Line := if l.kind = .removed then ⟨.removed, []⟩ else l

/-- A hunk whose removed lines are hidden. -/
def Hunk.hidden (h : Hunk) : Hunk := { h with lines := h.lines.map Line.hidden }

/-- A file whose removed lines are hidden. -/
def ChangedFile.hidden (f : ChangedFile) : ChangedFile :=
  { f with hunks := f.hunks.map Hunk.hidden }

/-- A draft whose removed lines are hidden. -/
def Draft.hidden (d : Draft) : Draft :=
  { d with
    hunks := d.hunks.map Hunk.hidden
    last := d.last.map fun (span, lines) => (span, lines.map Line.hidden) }

/-- A state whose removed lines are hidden. -/
def State.hidden (s : State) : State :=
  ⟨s.files.map ChangedFile.hidden, s.draft.map Draft.hidden, s.owed⟩

@[simp]
theorem Line.hidden_hidden (l : Line) : l.hidden.hidden = l.hidden := by
  unfold hidden
  split <;> simp_all

@[simp]
theorem Line.hidden_comp_hidden : Line.hidden ∘ Line.hidden = Line.hidden :=
  funext Line.hidden_hidden

@[simp]
theorem Hunk.hidden_comp_hidden : Hunk.hidden ∘ Hunk.hidden = Hunk.hidden :=
  funext fun h => by simp [hidden]

@[simp]
theorem ChangedFile.hidden_comp_hidden :
    ChangedFile.hidden ∘ ChangedFile.hidden = ChangedFile.hidden :=
  funext fun f => by simp [hidden]

namespace Draft

@[simp]
theorem hidden_hidden (d : Draft) : d.hidden.hidden = d.hidden := by
  cases h : d.last <;> simp [hidden, h]

theorem toFile_hidden (d : Draft) : d.hidden.toFile = d.toFile.hidden := by
  cases h : d.last with
  | none => simp [toFile, lastHunk, hidden, ChangedFile.hidden, h]
  | some r => simp [toFile, lastHunk, hidden, ChangedFile.hidden, Hunk.hidden, h]

theorem openHunk_hidden (d : Draft) (span : Span) :
    (d.openHunk span).hidden = d.hidden.openHunk span := by
  cases h : d.last with
  | none => simp [openHunk, lastHunk, hidden, h]
  | some r => simp [openHunk, lastHunk, hidden, Hunk.hidden, h]

/-- A line that is added to the last hunk, hidden or not. -/
theorem addLine_hidden (d : Draft) {l m : Line} (h : l.hidden = m.hidden) :
    (d.addLine l).hidden = (d.hidden.addLine m).hidden := by
  cases hd : d.last with
  | none => simp [addLine, hidden, hd]
  | some r => simp [addLine, hidden, hd, h]

/-- No header looks at the lines of a hunk. -/
theorem header_hidden (d : Draft) (line : Text) :
    d.hidden.header line = (d.header line).map fun r => (r.1.hidden, r.2) := by
  unfold header
  split_ifs
  all_goals try rfl
  cases SpanDigits.read? line with
  | none => rfl
  | some digits =>
    simp only
    cases Span.ofDigits digits with
    | error e => rfl
    | ok span => exact congrArg (fun x => Except.ok (x, _)) (openHunk_hidden d span).symm

end Draft

namespace State

@[simp]
theorem hidden_hidden (s : State) : s.hidden.hidden = s.hidden := by
  cases h : s.draft <;> simp [hidden, h]

theorem allFiles_hidden (s : State) : s.hidden.allFiles = s.allFiles.map ChangedFile.hidden := by
  cases h : s.draft with
  | none => simp [allFiles, hidden, h]
  | some d => simp [allFiles, hidden, h, Draft.toFile_hidden]

theorem openFile_hidden (s : State) (path : Text) :
    (s.openFile path).hidden = s.hidden.openFile path := by
  cases h : s.draft with
  | none => simp [openFile, hidden, h, Draft.hidden]
  | some d => simp [openFile, hidden, h, Draft.hidden, ← Draft.toFile_hidden]

theorem header_hidden (s : State) (line : Text) :
    s.hidden.header line = (s.header line).map hidden := by
  unfold header
  split
  · rw [← openFile_hidden]
    rfl
  · cases hd : s.draft with
    | none => simp [hidden, hd, Except.map]
    | some d =>
      simp only [hidden, hd, Option.map_some, Draft.header_hidden]
      cases d.header line with
      | error e => rfl
      | ok r => rfl

/-- Hiding before a step hides no more than hiding behind it. -/
theorem step_hidden (s : State) (line : Text) :
    (s.hidden.step line).map hidden = (s.step line).map hidden := by
  have howed : s.hidden.owed = s.owed := rfl
  rcases step_cases s line with ⟨ho, hl, hs⟩ | ⟨kind, ho, hk, hs⟩ | ⟨ho, hs⟩
  · rw [hs, step_of_remark (howed ▸ ho) hl]
    simp [Except.map]
  · rw [hs, step_of_kind (howed ▸ ho) hk]
    cases hd : s.draft with
    | none => simp [Except.map, hidden, hd]
    | some d => simp [Except.map, hidden, hd, ← Draft.addLine_hidden d rfl]
  · rw [hs, step_of_header (howed ▸ ho), header_hidden]
    cases s.header line with
    | error e => rfl
    | ok t => simp [Except.map]

/-- Outside a body nothing is made of a line that begins like a removed one. -/
theorem header_of_removed (s : State) (t : Text) :
    s.header ('-' :: t) = .ok { s with owed := .nothing } := by
  cases hd : s.draft with
  | none => simp [header, hd, startsWith, List.isPrefixOf]
  | some d =>
    have hdraft : d.header ('-' :: t) = .ok (d, .nothing) := by
      simp [Draft.header, startsWith, List.isPrefixOf]
    simp [header, hd, hdraft, startsWith, List.isPrefixOf, bind, Except.bind, pure, Except.pure]

/-- Two lines that both begin like removed ones, met in one state. -/
theorem step_removed (s : State) (t u : Text) :
    (s.step ('-' :: t)).map hidden = (s.step ('-' :: u)).map hidden := by
  cases ho : s.owed.isOpen with
  | true =>
    have hkind : ∀ v : Text, LineKind.ofLine? ('-' :: v) = some .removed := fun _ => rfl
    rw [step_of_kind ho (hkind t), step_of_kind ho (hkind u)]
    cases hd : s.draft with
    | none => rfl
    | some d =>
      have hlines : Line.hidden ⟨.removed, '-' :: t⟩ = Line.hidden ⟨.removed, '-' :: u⟩ := rfl
      have hadded := (Draft.addLine_hidden d hlines).trans (Draft.addLine_hidden d rfl).symm
      simp [Except.map, hidden, hadded]
  | false =>
    rw [step_of_header (by simp [ho]), step_of_header (by simp [ho]), header_of_removed,
      header_of_removed]

end State

/-! ## The laws -/

/-- Two lines are the same, or both begin like removed ones. -/
def SameUnlessRemoved (l m : Text) : Prop :=
  l = m ∨ startsWith ['-'] l = true ∧ startsWith ['-'] m = true

instance : DecidableRel SameUnlessRemoved := fun _ _ => inferInstanceAs (Decidable (_ ∨ _))

theorem sameEnd_step {s t : State} {l m : Text} (hst : s.hidden = t.hidden)
    (hlm : SameUnlessRemoved l m) :
    SameEnd (fun a b => a.hidden = b.hidden) (s.step l) (t.step m) := by
  -- Both states are hidden first, so that one state is left in which the two lines are met.
  have hmap : (s.step l).map State.hidden = (t.step m).map State.hidden := by
    rw [← State.step_hidden t m, ← hst, State.step_hidden]
    rcases hlm with rfl | ⟨hl, hm⟩
    · rfl
    · obtain ⟨u, rfl⟩ := List.isPrefixOf_iff_prefix.1 hl
      obtain ⟨v, rfl⟩ := List.isPrefixOf_iff_prefix.1 hm
      exact State.step_removed s u v
  cases hx : s.step l <;> cases hy : t.step m <;> simp [hx, hy, Except.map] at hmap
  · subst hmap
    exact .error _
  · exact .ok hmap

theorem sameUnlessRemoved_dropSuffix {l m : Text} (h : SameUnlessRemoved l m) :
    SameUnlessRemoved (dropSuffix ['\r'] l) (dropSuffix ['\r'] m) := by
  rcases h with rfl | ⟨hl, hm⟩
  · exact .inl rfl
  · refine .inr ⟨?_, ?_⟩
    · rwa [startsWith_dropSuffix (by simp)]
    · rwa [startsWith_dropSuffix (by simp)]

/-- Two diffs that differ in lines that begin like removed ones only, whatever state the lines are
met in, fail with the same error or give the same files but for what removed lines say. -/
theorem read_hidden {a b : Text} (h : List.Forall₂ SameUnlessRemoved (lines a) (lines b)) :
    (Diff.read a).map (·.map ChangedFile.hidden) =
      (Diff.read b).map (·.map ChangedFile.hidden) := by
  have hlines : List.Forall₂ SameUnlessRemoved (linesOf a) (linesOf b) := by
    unfold linesOf
    rw [List.forall₂_map_left_iff, List.forall₂_map_right_iff]
    exact h.imp fun _ _ => sameUnlessRemoved_dropSuffix
  have hrun : SameEnd (fun s t => s.hidden = t.hidden) ((linesOf a).foldlM State.step .start)
      ((linesOf b).foldlM State.step .start) :=
    SameEnd.foldlM (f := State.step) (g := State.step) (fun _ _ _ _ => sameEnd_step) hlines rfl
  refine SameEnd.map_eq (hrun.bind ?_)
  intro s t hst
  refine .ok ?_
  rw [← State.allFiles_hidden, hst, State.allFiles_hidden]

/-! ## The objections -/

/-- A line is shown after the change with the same text, or not at all, hidden or not. -/
theorem Line.visible_hidden (l : Line) :
    (if l.hidden.isVisible then [l.hidden.text] else []) =
      if l.isVisible then [l.text] else [] := by
  unfold hidden
  split
  · simp_all [isVisible]
  · rfl

theorem visibleText_hidden (f : ChangedFile) : visibleText f.hidden = visibleText f := by
  have hlines : ∀ ls : List Line, ((ls.map Line.hidden).filter Line.isVisible).map Line.text =
      (ls.filter Line.isVisible).map Line.text := by
    intro ls
    induction ls with
    | nil => rfl
    | cons l ls ih =>
      have hl := Line.visible_hidden l
      rw [List.map_cons, List.filter_cons, List.filter_cons]
      split_ifs at hl ⊢ <;> simp_all
  unfold visibleText
  simp [ChangedFile.hidden, Hunk.hidden, hlines, Function.comp_def]

theorem analyzeFile_hidden (f : ChangedFile) : analyzeFile f.hidden = analyzeFile f := by
  unfold analyzeFile
  rw [visibleText_hidden]
  rfl

theorem analyzeFiles_hidden (files : List ChangedFile) :
    analyzeFiles (files.map ChangedFile.hidden) = analyzeFiles files := by
  unfold analyzeFiles
  rw [List.flatMap_map]
  exact List.flatMap_congr fun f _ => analyzeFile_hidden f

/-- Removed lines never count. When two diffs have the same lines, except where the lines of both
begin with a minus sign, they fail with the same error, or give the same files up to what removed
lines say; and they meet the same objections. -/
theorem removed_lines_never_count (a b : Text)
    (h : List.Forall₂ SameUnlessRemoved (lines a) (lines b)) :
    (Diff.read a).map (·.map ChangedFile.hidden) = (Diff.read b).map (·.map ChangedFile.hidden) ∧
    (Diff.read a).map analyzeFiles = (Diff.read b).map analyzeFiles := by
  have hread := read_hidden h
  refine ⟨hread, ?_⟩
  cases ha : Diff.read a with
  | error e =>
    cases hb : Diff.read b <;> simp_all [Except.map]
  | ok fs =>
    cases hb : Diff.read b with
    | error e => simp [ha, hb, Except.map] at hread
    | ok gs =>
      simp only [ha, hb, Except.map, Except.ok.injEq] at hread ⊢
      rw [← analyzeFiles_hidden fs, hread, analyzeFiles_hidden]

/-- Removed lines that imitate the headers of files and hunks, in a body and outside of one. -/
theorem hostile_removed_lines_never_count :
    let a := "diff --git a/Dockerfile b/Dockerfile\n--- a/x\n@@ -1 +1 @@\n-FROM a\n+FROM b\n-"
      |>.toList
    let b := "diff --git a/Dockerfile b/Dockerfile\n-\n@@ -1 +1 @@\n-- a/x\n+FROM b\n-@@ bad"
      |>.toList
    List.Forall₂ SameUnlessRemoved (lines a) (lines b) ∧
      (Diff.read a).map analyzeFiles = (Diff.read b).map analyzeFiles := by
  intro a b
  have h : List.Forall₂ SameUnlessRemoved (lines a) (lines b) := by decide +kernel
  exact ⟨h, (removed_lines_never_count a b h).2⟩

end PinGate.Diff
