-- The law of the visible text: cut at its line feeds, it gives back the lines that stand after the
-- change, hunk by hunk, none lost and none added. Only a hunk without such lines leaves a trace, an
-- empty line; where two hunks with lines to show meet does not show.
import PinGate.Analysis
import PinGate.Proofs.Diff.Conservation

namespace PinGate

open Text

namespace Diff

/-! ## What is shown -/

/-- Whether a line stands in the file after the change. -/
def Line.IsKept (l : Line) : Prop := l.kind = .added ∨ l.kind = .context

instance : DecidablePred Line.IsKept := fun l =>
  inferInstanceAs (Decidable (l.kind = .added ∨ l.kind = .context))

/-- A hunk of which only the lines are left that stand after the change. -/
def Hunk.kept (h : Hunk) : Hunk := { h with lines := h.lines.filter Line.IsKept }

/-- A file of which only the lines are left that stand after the change. -/
def ChangedFile.kept (f : ChangedFile) : ChangedFile := { f with hunks := f.hunks.map Hunk.kept }

/-- The lines that a hunk shows: those that stand after the change, or an empty one. -/
def Hunk.shown (h : Hunk) : List Text :=
  if h.kept.lines = [] then [[]] else h.kept.lines.map Line.text

/-- The lines that a file shows: those of its hunks, or an empty one. -/
def ChangedFile.shown (f : ChangedFile) : List Text :=
  if f.hunks = [] then [[]] else f.hunks.flatMap Hunk.shown

theorem Line.isVisible_iff {l : Line} : l.isVisible = true ↔ l.IsKept := by
  simp [isVisible, IsKept]

theorem Hunk.filter_isVisible (h : Hunk) : h.lines.filter Line.isVisible = h.kept.lines :=
  List.filter_congr fun _ _ => by rw [Bool.eq_iff_iff, Line.isVisible_iff, decide_eq_true_iff]

theorem Hunk.kept_kept (h : Hunk) : h.kept.kept = h.kept := by
  simp [kept]

theorem Hunk.shown_kept (h : Hunk) : h.kept.shown = h.shown := by
  unfold shown
  rw [kept_kept]

theorem Hunk.shown_ne_nil (h : Hunk) : h.shown ≠ [] := by
  unfold shown
  split
  · exact List.cons_ne_nil _ _
  · next hne => simpa using hne

/-- What two hunks show that both have something to show, one hunk with the lines of both shows. -/
theorem Hunk.shown_append {h h' : Hunk} (hne : h.kept.lines ≠ []) (hne' : h'.kept.lines ≠ [])
    (span : Span) : Hunk.shown ⟨span, h.lines ++ h'.lines⟩ = h.shown ++ h'.shown := by
  have hlines : Hunk.kept ⟨span, h.lines ++ h'.lines⟩ =
      ⟨span, h.kept.lines ++ h'.kept.lines⟩ := by
    simp [kept]
  unfold shown
  rw [hlines, if_neg hne, if_neg hne', if_neg (by simp [hne]), List.map_append]

theorem not_mem_of_mem_shown {h : Hunk} (hlines : ∀ l ∈ h.lines, '\n' ∉ l.text) :
    ∀ t ∈ h.shown, '\n' ∉ t := by
  intro t ht
  unfold Hunk.shown at ht
  split at ht
  · rw [List.mem_singleton.1 ht]
    exact List.not_mem_nil
  · obtain ⟨l, hl, rfl⟩ := List.mem_map.1 ht
    exact hlines l (List.mem_of_mem_filter hl)

/-- No line of a file that is read from a diff has a line feed in it. -/
theorem not_mem_of_read {diff : Text} {files : List ChangedFile} (h : Diff.read diff = .ok files) :
    ∀ f ∈ files, ∀ l ∈ f.lines, '\n' ∉ l.text := by
  intro f hf l hl
  unfold Diff.read at h
  cases hrun : (linesOf diff).foldlM State.step State.start with
  | error e => simp [hrun, bind, Except.bind] at h
  | ok s =>
    obtain rfl : s.allFiles = files := by
      simpa [hrun, bind, Except.bind, pure, Except.pure] using h
    obtain ⟨g, hg, hl⟩ := List.mem_flatMap.1 hl
    have hline : l ∈ s.hunks.flatMap Hunk.lines :=
      List.mem_flatMap.2 ⟨g, List.mem_flatMap.2 ⟨f, hf, hg⟩, hl⟩
    have hsound : s.Sound (linesOf diff) := State.sound_start.foldlM hrun
    exact not_mem_of_mem_linesOf (hsound.in_order.subset (List.mem_map_of_mem hline))

end Diff

open Diff

/-! ## The visible text -/

/-- A hunk without lines to show is joined to the same as one with an empty line. -/
theorem unlines_shown (h : Hunk) :
    unlines ((h.lines.filter Line.isVisible).map Line.text) = unlines h.shown := by
  rw [h.filter_isVisible]
  unfold Hunk.shown
  split
  · next hnil => rw [hnil]; rfl
  · rfl

theorem visibleText_eq (f : ChangedFile) :
    visibleText f = unlines (f.hunks.flatMap Hunk.shown) := by
  unfold visibleText
  rw [← unlines_map_unlines Hunk.shown_ne_nil, List.map_congr_left fun h _ => unlines_shown h]

theorem lines_visibleText {f : ChangedFile} (h : ∀ l ∈ f.lines, '\n' ∉ l.text) :
    lines (visibleText f) = f.shown := by
  rw [visibleText_eq]
  unfold ChangedFile.shown
  split
  · next hnil => rw [hnil]; rfl
  · next hne =>
    apply List.splitOn_intercalate
    · intro t ht
      obtain ⟨g, hg, ht⟩ := List.mem_flatMap.1 ht
      exact not_mem_of_mem_shown (fun l hl => h l (List.mem_flatMap.2 ⟨g, hg, hl⟩)) t ht
    · obtain ⟨g, gs, hgs⟩ := List.exists_cons_of_ne_nil hne
      rw [hgs, List.flatMap_cons]
      simp [g.shown_ne_nil]

/-! ## The law -/

/-- Two files that show the same text, and meet the same objections. -/
structure ShowAlike (f g : ChangedFile) : Prop where
  text_eq : visibleText f = visibleText g
  findings_eq : analyzeFile f = analyzeFile g

/-- Of a file nothing is looked at but its path and what its hunks show. -/
theorem showAlike_of_shown {f g : ChangedFile} (hpath : f.path = g.path)
    (hshown : f.hunks.flatMap Hunk.shown = g.hunks.flatMap Hunk.shown) : ShowAlike f g := by
  have htext : visibleText f = visibleText g := by
    rw [visibleText_eq, visibleText_eq, hshown]
  refine ⟨htext, ?_⟩
  unfold analyzeFile ChangedFile.isDeleted
  rw [htext, hpath]

/-- The lines of the visible text are the lines that each hunk shows, in order, when no line has a
line feed in it, and none has one that is read from a diff. Two hunks that follow each other and
both have lines to show may be one, and the lines that do not stand after the change may be taken
out: neither shows, and neither changes what is objected to. -/
theorem the_visible_text_loses_no_line :
    (∀ f : ChangedFile, (∀ l ∈ f.lines, '\n' ∉ l.text) → lines (visibleText f) = f.shown) ∧
    (∀ diff files, Diff.read diff = .ok files → ∀ f ∈ files, ∀ l ∈ f.lines, '\n' ∉ l.text) ∧
    (∀ (f : ChangedFile) (before behind : List Hunk) (h h' : Hunk) (span : Span),
      f.hunks = before ++ h :: h' :: behind → h.kept.lines ≠ [] → h'.kept.lines ≠ [] →
        ShowAlike { f with hunks := before ++ ⟨span, h.lines ++ h'.lines⟩ :: behind } f) ∧
    ∀ f : ChangedFile, ShowAlike f.kept f := by
  refine ⟨fun f h => lines_visibleText h, fun diff files h => not_mem_of_read h, ?_, ?_⟩
  · intro f before behind h h' span hhunks hne hne'
    refine showAlike_of_shown (f := { f with hunks := _ }) rfl ?_
    simp [hhunks, Hunk.shown_append hne hne']
  · intro f
    refine showAlike_of_shown (f := f.kept) rfl ?_
    simp [ChangedFile.kept, List.flatMap_map, Hunk.shown_kept]

/-- A hunk with empty lines to show, one with none, and one with a line of no kind. -/
def threeHunks : ChangedFile where
  path := "Gemfile".toList
  status := .modified
  oldPath := none
  hunks :=
    [⟨⟨1, 1, 1, 2⟩, [⟨.context, []⟩, ⟨.added, "+gem 'a',".toList⟩]⟩,
      ⟨⟨5, 1, 6, 1⟩, [⟨.removed, "-'1'".toList⟩, ⟨.added, "'>2'".toList⟩, ⟨.context, []⟩]⟩,
      ⟨⟨9, 1, 9, 0⟩, [⟨.other "note".toList, "gem 'b', '>3'".toList⟩]⟩]

/-- The same file with the first two hunks in one. -/
def twoHunks : ChangedFile where
  path := "Gemfile".toList
  status := .modified
  oldPath := none
  hunks :=
    [⟨⟨1, 2, 1, 4⟩, [⟨.context, []⟩, ⟨.added, "+gem 'a',".toList⟩, ⟨.removed, "-'1'".toList⟩,
        ⟨.added, "'>2'".toList⟩, ⟨.context, []⟩]⟩,
      ⟨⟨9, 1, 9, 0⟩, [⟨.other "note".toList, "gem 'b', '>3'".toList⟩]⟩]

theorem hunks_that_meet_are_read_as_one :
    lines (visibleText threeHunks) = [[], "+gem 'a',".toList, "'>2'".toList, [], []] ∧
      visibleText twoHunks = visibleText threeHunks ∧
      analyzeFile twoHunks = [.gemRange ['a'] ">2".toList] := by
  obtain ⟨hlines, -, hmerge, -⟩ := the_visible_text_loses_no_line
  have halike : ShowAlike twoHunks threeHunks :=
    hmerge threeHunks [] [_] _ _ ⟨1, 2, 1, 4⟩ rfl (by decide) (by decide)
  refine ⟨?_, halike.text_eq, ?_⟩
  · rw [hlines threeHunks (by decide)]
    decide
  · rw [halike.findings_eq]
    decide +kernel

end PinGate
