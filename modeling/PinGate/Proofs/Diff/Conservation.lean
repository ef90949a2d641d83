-- The laws that every reading keeps to, whatever the text is. There is one file for each line that
-- starts one; the lines of the hunks are lines of the text, in order, each of the kind that its
-- first character shows; and no hunk goes on when it has all lines that its header announces. One
-- invariant, kept by each line, ties the lines that are owed to the hunk that has been read.
import PinGate.Proofs.Diff.Steps

namespace PinGate.Diff

open Text

/-! ## Lines and hunks -/

/-- Whether a line starts a file. -/
def isStart (line : Text) : Bool := startsWith "diff --git".toList line

/-- A line is of one of the three kinds of a diff, the one that its first character shows. -/
structure Line.ShowsKind (l : Line) : Prop where
  known : l.kind = .added ∨ l.kind = .removed ∨ l.kind = .context
  added_iff : l.kind = .added ↔ l.text.head? = some '+'
  removed_iff : l.kind = .removed ↔ l.text.head? = some '-'
  context_iff : l.kind = .context ↔ l.text = [] ∨ l.text.head? = some ' '

/-- How many of some lines the old side has. -/
def oldSize (ls : List Line) : Nat := ls.countP (·.kind != .added)

/-- How many of some lines the new side has. -/
def newSize (ls : List Line) : Nat := ls.countP (·.kind != .removed)

/-- A hunk stops in time: as long as lines follow, one of its sides is not complete. -/
def Hunk.StopsInTime (h : Hunk) : Prop :=
  ∀ front, front <+: h.lines → front ≠ h.lines →
    oldSize front < h.span.oldCount ∨ newSize front < h.span.newCount

/-- What a hunk with this header is owed behind some lines. -/
def Span.owedBehind (span : Span) (ls : List Line) : Owed :=
  ⟨span.oldCount - oldSize ls, span.newCount - newSize ls⟩

theorem isOpen_owedBehind_iff {span : Span} {ls : List Line} :
    (span.owedBehind ls).isOpen = true ↔
      oldSize ls < span.oldCount ∨ newSize ls < span.newCount := by
  simp only [Span.owedBehind, Owed.isOpen, Bool.or_eq_true, decide_eq_true_iff,
    Nat.sub_pos_iff_lt]

theorem showsKind_of_ofLine? {kind : LineKind} {line : Text}
    (h : LineKind.ofLine? line = some kind) : Line.ShowsKind ⟨kind, line⟩ := by
  unfold LineKind.ofLine? at h
  split at h <;> cases h <;> constructor <;> simp

/-- No line of a hunk starts a file. -/
theorem isStart_of_ofLine? {kind : LineKind} {line : Text}
    (h : LineKind.ofLine? line = some kind) : isStart line = false := by
  unfold LineKind.ofLine? at h
  split at h
  all_goals first | rfl | cases h

theorem isStart_of_remark {line : Text} (h : startsWith ['\\'] line = true) :
    isStart line = false := by
  obtain ⟨t, rfl⟩ := List.isPrefixOf_iff_prefix.1 h
  rfl

/-- A line that is read pays what the owed lines count. -/
theorem owedBehind_after (span : Span) (ls : List Line) {kind : LineKind} {line : Text}
    (h : LineKind.ofLine? line = some kind) :
    (span.owedBehind ls).after kind = span.owedBehind (ls ++ [⟨kind, line⟩]) := by
  rcases (showsKind_of_ofLine? h).known with hk | hk | hk <;> subst hk <;>
    simp [Span.owedBehind, Owed.after, oldSize, newSize, Nat.sub_sub]

theorem stopsInTime_of_nil {h : Hunk} (hnil : h.lines = []) : h.StopsInTime := by
  intro front hfront hne
  rw [hnil] at hfront hne
  exact absurd (List.prefix_nil.1 hfront) hne

/-- A hunk that is owed lines may have one more. -/
theorem stopsInTime_concat {span : Span} {ls : List Line} (l : Line)
    (h : Hunk.StopsInTime ⟨span, ls⟩) (ho : (span.owedBehind ls).isOpen = true) :
    Hunk.StopsInTime ⟨span, ls ++ [l]⟩ := by
  intro front hfront hne
  have hprefix : front <+: ls := (List.prefix_concat_iff.1 hfront).resolve_left hne
  by_cases heq : front = ls
  · subst heq
    exact isOpen_owedBehind_iff.1 ho
  · exact h front hprefix heq

/-! ## The hunks of a state -/

namespace State

/-- All hunks that have been read, the one that may grow included. -/
def hunks (s : State) : List Hunk := s.allFiles.flatMap ChangedFile.hunks

/-- The last hunk stands behind all others, and a new line behind its lines. -/
theorem hunks_of_last {s : State} {d : Draft} {span : Span} {ls : Array Line}
    (hd : s.draft = some d) (hl : d.last = some (span, ls)) :
    ∃ front, s.hunks = front ++ [⟨span, ls.toList⟩] ∧ ∀ (l : Line) (owed : Owed),
      State.hunks { s with draft := some (d.addLine l), owed := owed } =
        front ++ [⟨span, ls.toList ++ [l]⟩] := by
  refine ⟨s.files.toList.flatMap ChangedFile.hunks ++ d.hunks.toList, ?_, ?_⟩
  · simp [hunks, allFiles, hd, Draft.toFile, Draft.lastHunk, hl]
  · intro l owed
    simp [hunks, allFiles, Draft.toFile, Draft.lastHunk, Draft.addLine, hl]

end State

/-- A header changes what is said about the file and owes nothing, or opens a hunk that is owed all
its lines. -/
theorem Draft.header_cases {d e : Draft} {line : Text} {owed : Owed}
    (h : d.header line = .ok (e, owed)) :
    (e.toFile.hunks = d.toFile.hunks ∧ owed = .nothing) ∨
      ∃ span : Span, e = d.openHunk span ∧ owed = ⟨span.oldCount, span.newCount⟩ := by
  unfold header at h
  split_ifs at h
  -- Only the header of a hunk reads numbers.
  all_goals try (cases h; exact .inl ⟨rfl, rfl⟩)
  cases hr : SpanDigits.read? line with
  | none => simp [hr] at h
  | some digits =>
    cases hs : Span.ofDigits digits with
    | error fault => simp [hr, hs, Except.mapError, bind, Except.bind] at h
    | ok span =>
      simp only [hr, hs, Except.mapError, bind, Except.bind, pure, Except.pure, Except.ok.injEq,
        Prod.mk.injEq] at h
      exact .inr ⟨span, h.1.symm, h.2.symm⟩

/-! ## The invariant -/

/-- What holds of a state behind some lines. -/
structure State.Sound (seen : List Text) (s : State) : Prop where
  counted : s.allFiles.length = seen.countP isStart
  shown : ∀ h ∈ s.hunks, ∀ l ∈ h.lines, l.ShowsKind
  in_time : ∀ h ∈ s.hunks, h.StopsInTime
  in_order : ((s.hunks.flatMap Hunk.lines).map Line.text).Sublist seen
  /-- Lines are owed to the last hunk, as many as its header announces and it does not have. -/
  owed : s.owed.isOpen = true → ∃ d span ls, s.draft = some d ∧ d.last = some (span, ls) ∧
    s.owed = span.owedBehind ls.toList

namespace State

variable {s t : State} {seen : List Text} {line : Text}

theorem sound_start : start.Sound [] := by
  constructor <;> simp [start, allFiles, hunks, Owed.nothing, Owed.isOpen]

/-- A line that is no line of a hunk keeps the invariant: the hunks stay as they are, or new ones
without lines follow them. -/
theorem Sound.of_hunks (h : s.Sound seen) (new : List Hunk) (hnew : ∀ g ∈ new, g.lines = [])
    (hhunks : t.hunks = s.hunks ++ new)
    (hfiles : t.allFiles.length = s.allFiles.length + if isStart line then 1 else 0)
    (howed : t.owed.isOpen = true → ∃ d span ls, t.draft = some d ∧ d.last = some (span, ls) ∧
      t.owed = span.owedBehind ls.toList) : t.Sound (seen ++ [line]) where
  counted := by
    rw [hfiles, h.counted, List.countP_append, List.countP_singleton]
  shown := by
    rw [hhunks]
    intro g hg l hl
    rcases List.mem_append.1 hg with hg | hg
    · exact h.shown g hg l hl
    · simp [hnew g hg] at hl
  in_time := by
    rw [hhunks]
    intro g hg
    rcases List.mem_append.1 hg with hg | hg
    · exact h.in_time g hg
    · exact stopsInTime_of_nil (hnew g hg)
  in_order := by
    have hnone : new.flatMap Hunk.lines = [] := List.flatMap_eq_nil_iff.2 hnew
    rw [hhunks, List.flatMap_append, hnone, List.append_nil]
    exact h.in_order.trans (List.sublist_append_left seen [line])
  owed := howed

theorem Sound.addLine {kind : LineKind} (h : s.Sound seen) (ho : s.owed.isOpen = true)
    (hk : LineKind.ofLine? line = some kind) :
    State.Sound (seen ++ [line])
      { s with draft := s.draft.map (·.addLine ⟨kind, line⟩), owed := s.owed.after kind } := by
  obtain ⟨d, span, ls, hd, hl, howed⟩ := h.owed ho
  obtain ⟨front, hhunks, hadded⟩ := hunks_of_last hd hl
  have hopen : (span.owedBehind ls.toList).isOpen = true := howed ▸ ho
  have hshown := h.shown
  have hin_time := h.in_time
  have hin_order := h.in_order
  rw [hhunks] at hshown hin_time hin_order
  rw [hd, Option.map_some]
  constructor
  case counted =>
    rw [List.countP_append, List.countP_singleton, isStart_of_ofLine? hk, ← h.counted]
    simp [allFiles, hd]
  case shown =>
    rw [hadded]
    simp only [List.mem_append, List.mem_singleton] at hshown ⊢
    rintro g (hg | rfl) l hmem
    · exact hshown g (.inl hg) l hmem
    · rcases List.mem_append.1 hmem with hmem | hmem
      · exact hshown _ (.inr rfl) l hmem
      · rw [List.mem_singleton.1 hmem]
        exact showsKind_of_ofLine? hk
  case in_time =>
    rw [hadded]
    simp only [List.mem_append, List.mem_singleton] at hin_time ⊢
    rintro g (hg | rfl)
    · exact hin_time g (.inl hg)
    · exact stopsInTime_concat _ (hin_time _ (.inr rfl)) hopen
  case in_order =>
    rw [hadded]
    have hconcat := hin_order.append (List.Sublist.refl [line])
    simpa using hconcat
  case owed =>
    intro _
    refine ⟨d.addLine ⟨kind, line⟩, span, ls.push ⟨kind, line⟩, rfl, ?_, ?_⟩
    · simp [Draft.addLine, hl]
    · rw [howed, owedBehind_after span ls.toList hk, Array.toList_push]

theorem Sound.header (h : s.Sound seen) (hs : s.header line = .ok t) :
    t.Sound (seen ++ [line]) := by
  unfold State.header at hs
  split at hs
  case isTrue hstart =>
    cases hs
    refine h.of_hunks [] (by simp) ?_ ?_ (by simp [openFile, Owed.nothing, Owed.isOpen])
    · simp [hunks]
    · rw [allFiles_openFile, isStart, if_pos hstart]
      simp
  case isFalse hstart =>
    have hno : isStart line = false := by simpa [isStart] using hstart
    cases hd : s.draft with
    | none =>
      simp only [hd, Except.ok.injEq] at hs
      subst hs
      exact h.of_hunks [] (by simp) (by simp [hunks, allFiles, hd])
        (by simp [allFiles, hd, hno]) (by simp [Owed.nothing, Owed.isOpen])
    | some d =>
      cases he : d.header line with
      | error e => simp [hd, he, bind, Except.bind] at hs
      | ok r =>
        obtain ⟨e, owed⟩ := r
        simp only [hd, he, bind, Except.bind, pure, Except.pure, Except.ok.injEq] at hs
        subst hs
        rcases Draft.header_cases he with ⟨hhunks, rfl⟩ | ⟨span, rfl, rfl⟩
        · exact h.of_hunks [] (by simp) (by simp [hunks, allFiles, hd, hhunks])
            (by simp [allFiles, hd, hno]) (by simp [Owed.nothing, Owed.isOpen])
        · refine h.of_hunks [⟨span, []⟩] (by simp) (by simp [hunks, allFiles, hd])
            (by simp [allFiles, hd, hno]) fun _ => ⟨_, span, #[], rfl, rfl, ?_⟩
          simp [Span.owedBehind, oldSize, newSize]

theorem Sound.step (h : s.Sound seen) (hs : s.step line = .ok t) : t.Sound (seen ++ [line]) := by
  rcases step_cases s line with ⟨ho, hl, hs'⟩ | ⟨kind, ho, hk, hs'⟩ | ⟨-, hs'⟩
  · cases hs'.symm.trans hs
    exact h.of_hunks [] (by simp) (by simp) (by simp [isStart_of_remark hl]) h.owed
  · cases hs'.symm.trans hs
    exact h.addLine ho hk
  · exact h.header (hs' ▸ hs)

theorem Sound.foldlM {ls : List Text} (h : s.Sound seen) (hs : ls.foldlM State.step s = .ok t) :
    t.Sound (seen ++ ls) := by
  induction ls generalizing s seen with
  | nil =>
    cases hs
    simpa using h
  | cons l ls ih =>
    rw [List.foldlM_cons] at hs
    cases hl : s.step l with
    | error e => simp [hl, bind, Except.bind] at hs
    | ok u =>
      rw [hl] at hs
      simpa using ih (h.step hl) hs

end State

/-! ## The laws -/

/-- What the files that are read from a diff keep to. -/
structure KeepsTo (diff : Text) (files : List ChangedFile) : Prop where
  a_file_for_each_start : files.length = (lines diff).countP isStart
  kinds_are_shown : ∀ f ∈ files, ∀ h ∈ f.hunks, ∀ l ∈ h.lines, l.ShowsKind ∧ '\n' ∉ l.text
  hunks_stop_in_time : ∀ f ∈ files, ∀ h ∈ f.hunks, h.StopsInTime
  lines_are_in_order : ((files.flatMap ChangedFile.lines).map Line.text).Sublist
    ((lines diff).map (dropSuffix ['\r']))

theorem countP_isStart_linesOf (diff : Text) :
    (linesOf diff).countP isStart = (lines diff).countP isStart := by
  have hstart : isStart ∘ dropSuffix ['\r'] = isStart :=
    funext fun l => startsWith_dropSuffix (by decide) l
  rw [linesOf, List.countP_map, hstart]

/-- A diff of whatever form that can be read gives one file for each line that starts one, in
whatever state that line is met. The lines of its hunks are lines of the diff in their order, none
twice, and each shows its kind; and each hunk stops as soon as it has all its lines. -/
theorem every_reading_keeps_to_the_text {diff : Text} {files : List ChangedFile}
    (h : Diff.read diff = .ok files) : KeepsTo diff files := by
  unfold Diff.read at h
  cases hrun : (linesOf diff).foldlM State.step State.start with
  | error e => simp [hrun, bind, Except.bind] at h
  | ok s =>
    have hsound : s.Sound (linesOf diff) := State.sound_start.foldlM hrun
    obtain rfl : s.allFiles = files := by
      simpa [hrun, bind, Except.bind, pure, Except.pure] using h
    have hmem : ∀ f ∈ s.allFiles, ∀ g ∈ f.hunks, g ∈ s.hunks :=
      fun f hf g hg => List.mem_flatMap.2 ⟨f, hf, hg⟩
    have hlines : s.allFiles.flatMap ChangedFile.lines = s.hunks.flatMap Hunk.lines :=
      List.flatMap_assoc.symm
    constructor
    case a_file_for_each_start => rw [hsound.counted, countP_isStart_linesOf]
    case kinds_are_shown =>
      intro f hf g hg l hl
      have htext : l.text ∈ linesOf diff := hsound.in_order.subset
        (List.mem_map_of_mem (List.mem_flatMap.2 ⟨g, hmem f hf g hg, hl⟩))
      exact ⟨hsound.shown g (hmem f hf g hg) l hl, not_mem_of_mem_linesOf htext⟩
    case hunks_stop_in_time =>
      intro f hf g hg
      exact hsound.in_time g (hmem f hf g hg)
    case lines_are_in_order =>
      rw [hlines]
      exact hsound.in_order

/-- Hunks with too many lines on one side, with a remark inside, cut short by a file and before any
file. -/
theorem broken_hunks_keep_to_the_text :
    let diff := ("@@ bad\n+x\ndiff --git a/x b/x\r\n@@ -1 +1,2 @@\n-a\n-b\r\n\\ none\n+c\n\n+d\n" ++
      "@@ -1,9 +1,9 @@\n e\ndiff --git a/y b/y\n+f").toList
    let files : List ChangedFile :=
      [⟨"x".toList, .modified, none,
        [⟨⟨1, 1, 1, 2⟩, [⟨.removed, "-a".toList⟩, ⟨.removed, "-b".toList⟩, ⟨.added, "+c".toList⟩,
          ⟨.context, []⟩]⟩, ⟨⟨1, 9, 1, 9⟩, [⟨.context, " e".toList⟩]⟩]⟩,
       ⟨"y".toList, .modified, none, []⟩]
    Diff.read diff = .ok files ∧ KeepsTo diff files := by
  intro diff files
  have h : Diff.read diff = .ok files := by decide +kernel
  exact ⟨h, every_reading_keeps_to_the_text h⟩

end PinGate.Diff
