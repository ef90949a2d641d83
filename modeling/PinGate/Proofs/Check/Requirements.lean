-- Requirements line by line. A requirement ends on its own line as long as its version does not
-- stand on a later one; where it does, a context line is taken for the version of the added line in
-- front of it, and the objection to that line is lost or changed.
import PinGate.Proofs.Check.Constraint

namespace PinGate.Check

open Text

namespace Requirement

/-- Whether a requirement at the start of some line of a text is continued on a later line. -/
def HasContinued (content : Text) : Prop :=
  ∃ a s, a ++ s = content ∧ (a = [] ∨ a.getLast? = some '\n') ∧ IsContinued s

section

variable {s u b l c r name : Text}

/-! ## One requirement after the other -/

theorem read?_of_none (h : run? isNameChar s = none) : read? s = none := by
  unfold read?
  rw [h]
  rfl

theorem read?_of_constraint (hname : run? isNameChar s = some (name, u))
    (h : readConstraint? (skipBlanks u) = some (c, r)) :
    read? s = some (⟨name, some c⟩, nextLine r) := by
  unfold read?
  rw [hname]
  simp only [Option.bind_eq_bind, Option.bind_some, h]
  rfl

/-- Where a search for the starts of lines goes on in `s`, at the start of a line or in a line. -/
def resume (atLineStart : Bool) (s : Text) : Text := if atLineStart then s else nextLine s

theorem read?_of_no_constraint (hname : run? isNameChar s = some (name, u))
    (h : readConstraint? (skipBlanks u) = none) :
    read? s = some (⟨name, none⟩,
      resume ((u.takeWhile isBlank).getLast? == some '\n') (skipBlanks u)) := by
  unfold read?
  rw [hname]
  simp only [Option.bind_eq_bind, Option.bind_some, h]
  rfl

theorem nextLine_cons (e : Char) (s : Text) : nextLine (e :: s) = resume (e == '\n') s := by
  by_cases he : e = '\n' <;> simp [nextLine, resume, he]

theorem all_nil : all [] = [] := findAllLines_nil _

theorem all_of_no_name (h : run? isNameChar s = none) : all s = all (nextLine s) :=
  findAllLines_of_none (read?_of_none h)

/-- No requirement starts with a blank. -/
theorem all_of_isBlank {e : Char} (he : isBlank e = true) (s : Text) :
    all (e :: s) = all (nextLine (e :: s)) :=
  all_of_no_name (by simp [run?, isNameChar_of_isBlank he])

/-- A search loses nothing when it skips blanks. -/
theorem all_resume_skipBlanks (atLineStart : Bool) (u : Text) :
    all (resume (((u.takeWhile isBlank).getLast?.map (· == '\n')).getD atLineStart)
      (skipBlanks u)) = all (resume atLineStart u) := by
  induction u generalizing atLineStart with
  | nil => rfl
  | cons e u ih =>
    by_cases he : isBlank e = true
    · have hskip : skipBlanks (e :: u) = skipBlanks u := List.dropWhile_cons_of_pos he
      have hlast : (((e :: u).takeWhile isBlank).getLast?.map (· == '\n')).getD atLineStart =
          ((u.takeWhile isBlank).getLast?.map (· == '\n')).getD (e == '\n') := by
        rw [List.takeWhile_cons_of_pos he, List.getLast?_cons]
        cases (u.takeWhile isBlank).getLast? <;> rfl
      rw [hskip, hlast, ih, ← nextLine_cons]
      cases atLineStart with
      | true => exact (all_of_isBlank he u).symm
      | false => rfl
    · rw [List.takeWhile_cons_of_neg he, skipBlanks, List.dropWhile_cons_of_neg he]
      rfl

theorem all_behind_blanks (u : Text) :
    all (resume ((u.takeWhile isBlank).getLast? == some '\n') (skipBlanks u)) =
      all (nextLine u) := by
  have hlast : ((u.takeWhile isBlank).getLast? == some '\n') =
      ((u.takeWhile isBlank).getLast?.map (· == '\n')).getD false := by
    cases (u.takeWhile isBlank).getLast? <;> rfl
  rw [hlast, all_resume_skipBlanks]
  rfl

theorem all_of_no_constraint (hname : run? isNameChar s = some (name, u))
    (h : readConstraint? (skipBlanks u) = none) : all s = ⟨name, none⟩ :: all (nextLine u) := by
  rw [← all_behind_blanks]
  exact findAllLines_of_some (read?_of_no_constraint hname h)

theorem all_of_constraint (hname : run? isNameChar s = some (name, u))
    (h : readConstraint? (skipBlanks u) = some (c, r)) :
    all s = ⟨name, some c⟩ :: all (nextLine r) :=
  findAllLines_of_some (read?_of_constraint hname h)

/-! ## One line and the next -/

/-- What is left behind the name of a requirement: the rest of its line, the line feed and `b`. -/
theorem run?_line (l b : Text) : run? isNameChar (l ++ '\n' :: b) =
    (run? isNameChar l).map fun p => (p.1, p.2 ++ '\n' :: b) :=
  readsAlone_run (by decide) l b

/-- A line is continued when it names something without a constraint, and with what follows it
there is one. -/
theorem isContinued_line_iff (hl : '\n' ∉ l) : IsContinued (l ++ '\n' :: b) ↔
    ∃ name u, run? isNameChar l = some (name, u) ∧ readConstraint? (skipBlanks u) = none ∧
      (readConstraint? (skipBlanks (u ++ '\n' :: b))).isSome = true := by
  have hu : '\n' ∉ l.dropWhile isNameChar := fun h => hl ((List.dropWhile_suffix _).subset h)
  rw [isContinued_iff, takeWhile_append_stop (by decide), dropWhile_append_stop (by decide)]
  constructor
  · rintro ⟨hname, hsome, hbreak⟩
    exact ⟨_, _, run?_eq_some_iff.2 ⟨hname, rfl, rfl⟩,
      (readConstraint?_eq_none_iff hu hsome).2 hbreak, hsome⟩
  · rintro ⟨name, u, hrun, hnone, hsome⟩
    obtain ⟨hname, rfl, rfl⟩ := run?_eq_some_iff.1 hrun
    exact ⟨hname, hsome, (readConstraint?_eq_none_iff hu hsome).1 hnone⟩

/-- A line that is not continued is read alone. -/
theorem all_append (hl : '\n' ∉ l) (h : ¬ IsContinued (l ++ '\n' :: b)) :
    all (l ++ '\n' :: b) = all l ++ all b := by
  rw [isContinued_line_iff hl] at h
  have hrun := run?_line l b
  cases hname : run? isNameChar l with
  | none =>
    rw [hname] at hrun
    rw [all_of_no_name hrun, all_of_no_name hname, nextLine_append hl, nextLine_of_not_mem hl,
      all_nil]
    rfl
  | some p =>
    obtain ⟨name, u⟩ := p
    rw [hname] at hrun
    have hu : '\n' ∉ u := fun hmem => hl ((run?_suffix hname).subset hmem)
    cases hconstraint : readConstraint? (skipBlanks u) with
    | some q =>
      obtain ⟨c, r⟩ := q
      have hr : '\n' ∉ r := fun hmem => hu ((readConstraint?_suffix hconstraint).subset hmem)
      rw [all_of_constraint hrun (readConstraint?_line hconstraint b),
        all_of_constraint hname hconstraint, nextLine_append hr, nextLine_of_not_mem hr, all_nil]
      rfl
    | none =>
      have hnone : readConstraint? (skipBlanks (u ++ '\n' :: b)) = none := by
        rw [← Option.not_isSome_iff_eq_none]
        intro hsome
        exact h ⟨name, u, hname, hconstraint, hsome⟩
      rw [all_of_no_constraint hrun hnone, all_of_no_constraint hname hconstraint,
        nextLine_append hu, nextLine_of_not_mem hu, all_nil]
      rfl

/-- A line that is continued is read with a constraint that it does not have alone, and the search
goes on behind that constraint. -/
theorem all_of_isContinued (hl : '\n' ∉ l) (h : IsContinued (l ++ '\n' :: b)) :
    ∃ name c r, all l = [⟨name, none⟩] ∧
      all (l ++ '\n' :: b) = ⟨name, some c⟩ :: all (nextLine r) ∧ r <:+ l ++ '\n' :: b ∧
      ∃ d ∈ c, d.isDigit = true := by
  obtain ⟨name, u, hname, hnone, hsome⟩ := (isContinued_line_iff hl).1 h
  obtain ⟨⟨c, r⟩, hconstraint⟩ := Option.isSome_iff_exists.1 hsome
  have hrun := run?_line l b
  rw [hname] at hrun
  have hu : '\n' ∉ u := fun hmem => hl ((run?_suffix hname).subset hmem)
  have hline : all l = [⟨name, none⟩] := by
    rw [all_of_no_constraint hname hnone, nextLine_of_not_mem hu, all_nil]
  refine ⟨name, c, r, hline, all_of_constraint hrun hconstraint,
    (readConstraint?_suffix hconstraint).trans (run?_suffix hrun), ?_⟩
  obtain ⟨front, -, d, more, hd, -, rfl, -⟩ := readConstraint?_eq_some_iff.1 hconstraint
  exact ⟨d, by simp, hd⟩

end

/-! ## Continued lines -/

theorem hasContinued_iff {content : Text} : HasContinued content ↔
    ∃ a ∈ content.inits, (a = [] ∨ a.getLast? = some '\n') ∧
      IsContinued (content.drop a.length) := by
  unfold HasContinued
  simp only [List.mem_inits]
  constructor
  · rintro ⟨a, s, rfl, ha, hs⟩
    exact ⟨a, List.prefix_append a s, ha, by rwa [List.drop_left]⟩
  · rintro ⟨a, ⟨s, rfl⟩, ha, hs⟩
    exact ⟨a, s, rfl, ha, by rwa [List.drop_left] at hs⟩

instance : DecidablePred HasContinued := fun _ => decidable_of_iff' _ hasContinued_iff

theorem not_hasContinued_line {l : Text} (hl : '\n' ∉ l) : ¬ HasContinued l := by
  rintro ⟨a, s, rfl, -, -, front, -, d, more, -, hs, hbreak⟩
  apply hl
  have hmem : '\n' ∈ s.dropWhile isNameChar := by
    rw [← hs]
    exact List.mem_append_left _ hbreak
  exact List.mem_append_right _ ((List.dropWhile_suffix _).subset hmem)

theorem hasContinued_append_iff {l b : Text} (hl : '\n' ∉ l) : HasContinued (l ++ '\n' :: b) ↔
    IsContinued (l ++ '\n' :: b) ∨ HasContinued b := by
  constructor
  · rintro ⟨a, s, hs, ha, hcontinued⟩
    rcases ha with rfl | ha
    · exact .inl (hs ▸ hcontinued)
    · -- The text in front of a later line ends with a line feed, so it holds the whole first line.
      obtain ⟨a, rfl⟩ := List.getLast?_eq_some_iff.1 ha
      rw [List.append_assoc, List.singleton_append] at hs
      rcases List.append_eq_append_iff.1 hs with ⟨front, hfront, hrest⟩ | ⟨front, hfront, hrest⟩
      · cases front with
        | nil =>
          obtain ⟨-, rfl⟩ := List.cons.inj hrest
          exact .inr ⟨[], s, rfl, .inl rfl, hcontinued⟩
        | cons e front =>
          obtain ⟨rfl, -⟩ := List.cons.inj hrest
          exact absurd (by simp [hfront]) hl
      · cases front with
        | nil =>
          obtain ⟨-, rfl⟩ := List.cons.inj hrest
          exact .inr ⟨[], _, rfl, .inl rfl, hcontinued⟩
        | cons e front =>
          obtain ⟨-, hb⟩ := List.cons.inj hrest
          refine .inr ⟨front ++ ['\n'], s, ?_, .inr (by simp), hcontinued⟩
          rw [hb]
          simp
  · rintro (h | ⟨a, s, hs, ha, hcontinued⟩)
    · exact ⟨[], _, rfl, .inl rfl, h⟩
    · refine ⟨l ++ '\n' :: a, s, by simp [hs], .inr ?_, hcontinued⟩
      rcases ha with rfl | ha
      · simp
      · simp [List.getLast?_append, List.getLast?_cons, ha]

end Requirement

/-! ## What is said -/

open Requirement

/-- What is said about a requirement. -/
def objection (q : Requirement) : Text := (Finding.requirementRange q.name q.constraint).message

/-- What is said about a requirements file. -/
def said (content : Text) : List Text := (requirements content).map Finding.message

theorem said_eq (content : Text) : said content = ((all content).filter isRange).map objection := by
  unfold said requirements
  rw [List.map_map]
  rfl

/-- What is said about the lines of a text, one by one. -/
def saidByLine (content : Text) : List Text := (lines content).flatMap said

theorem saidByLine_append {l : Text} (hl : '\n' ∉ l) (b : Text) :
    saidByLine (l ++ '\n' :: b) = said l ++ saidByLine b := by
  unfold saidByLine
  rw [lines_append, lines_of_not_mem hl]
  rfl

theorem said_append {l b : Text} (hl : '\n' ∉ l) (h : ¬ IsContinued (l ++ '\n' :: b)) :
    said (l ++ '\n' :: b) = said l ++ said b := by
  rw [said_eq, said_eq, said_eq, all_append hl h, List.filter_append, List.map_append]

/-- Behind a later line feed there is no more to be said than behind the first one. -/
theorem length_saidByLine_nextLine_le {l b r : Text} (hl : '\n' ∉ l) (hr : r <:+ l ++ '\n' :: b) :
    (saidByLine (nextLine r)).length ≤ (saidByLine b).length := by
  by_cases hbreak : '\n' ∈ r
  · obtain ⟨x, y, rfl, hx⟩ := List.eq_append_cons_of_mem hbreak
    obtain ⟨a, ha⟩ := hr
    have hlines : lines (a ++ x) ++ lines y = l :: lines b := by
      rw [← lines_append, List.append_assoc, ha, lines_append, lines_of_not_mem hl]
      rfl
    have hb : ∃ ls, lines b = ls ++ lines y := by
      cases hax : lines (a ++ x) with
      | nil => exact absurd hax (List.splitOn_ne_nil '\n' _)
      | cons m ls =>
        rw [hax] at hlines
        exact ⟨ls, (List.cons.inj hlines).2.symm⟩
    obtain ⟨ls, hls⟩ := hb
    rw [nextLine_append hx]
    unfold saidByLine
    rw [hls, List.flatMap_append, List.length_append]
    omega
  · have hnil : saidByLine [] = [] := by
      unfold saidByLine
      rw [lines_of_not_mem List.not_mem_nil, List.flatMap_singleton, said_eq]
      unfold all
      rw [findAllLines_nil]
      rfl
    rw [nextLine_of_not_mem hbreak, hnil]
    exact Nat.zero_le _

/-- A continued line is objected to alone; with what follows it the objection is another one, or
there is none. -/
theorem said_of_isContinued {l b : Text} (hl : '\n' ∉ l) (h : IsContinued (l ++ '\n' :: b)) :
    ∃ alone r, said l = [alone] ∧ r <:+ l ++ '\n' :: b ∧
      (said (l ++ '\n' :: b) = said (nextLine r) ∨
        ∃ other ≠ alone, said (l ++ '\n' :: b) = other :: said (nextLine r)) := by
  obtain ⟨name, c, r, hline, hall, hr, d, hd, hdigit⟩ := all_of_isContinued hl h
  refine ⟨objection ⟨name, none⟩, r, by rw [said_eq, hline]; rfl, hr, ?_⟩
  rw [said_eq, hall, said_eq]
  by_cases hrange : isRange ⟨name, some c⟩ = true
  · right
    refine ⟨objection ⟨name, some c⟩, ?_, by rw [List.filter_cons_of_pos hrange, List.map_cons]⟩
    intro heq
    have hc : c = "unspecified".toList := by
      have hmessage : c ++ ['`', '.'] = "unspecified".toList ++ ['`', '.'] := by
        simpa [objection, Finding.message, Finding.code] using heq
      exact List.append_cancel_right hmessage
    have hletters : "unspecified".toList.all (fun c => !c.isDigit) = true := by decide
    have := List.all_eq_true.1 hletters d (hc ▸ hd)
    simp [hdigit] at this
  · left
    rw [List.filter_cons_of_neg hrange]

/-- Line by line there is never less to be said. -/
theorem length_said_le (content : Text) : (said content).length ≤ (saidByLine content).length := by
  induction hn : content.length using Nat.strongRecOn generalizing content with
  | _ n ih =>
    by_cases hbreak : '\n' ∈ content
    · obtain ⟨l, b, rfl, hl⟩ := List.eq_append_cons_of_mem hbreak
      have hlength : b.length < n := by
        rw [← hn]
        simp
        omega
      rw [saidByLine_append hl, List.length_append]
      by_cases hcontinued : IsContinued (l ++ '\n' :: b)
      · obtain ⟨alone, r, halone, hr, hsaid⟩ := said_of_isContinued hl hcontinued
        have hshort : (nextLine r).length < n := by
          have hle := hr.length_le
          rw [hn] at hle
          by_cases hnil : r = []
          · subst hnil
            exact Nat.zero_lt_of_lt hlength
          · exact (length_nextLine_lt hnil).trans_le hle
        have hbehind := ih _ hshort (nextLine r) rfl
        have hrest := length_saidByLine_nextLine_le hl hr
        rcases hsaid with hsaid | ⟨other, -, hsaid⟩
        · rw [hsaid, halone, List.length_singleton]
          omega
        · rw [hsaid, halone, List.length_cons, List.length_singleton]
          omega
      · have hb := ih b.length hlength b rfl
        rw [said_append hl hcontinued, List.length_append]
        omega
    · unfold saidByLine
      rw [lines_of_not_mem hbreak, List.flatMap_singleton]

/-! ## Line by line -/

/-- What is said about a text is said about its lines exactly when no line is continued. -/
theorem said_eq_saidByLine_iff (content : Text) :
    said content = saidByLine content ↔ ¬ HasContinued content := by
  induction content using by_lines with
  | last l hl =>
    have hline : saidByLine l = said l := by
      unfold saidByLine
      rw [lines_of_not_mem hl, List.flatMap_singleton]
    exact iff_of_true hline.symm (not_hasContinued_line hl)
  | more l b hl ih =>
    rw [saidByLine_append hl, hasContinued_append_iff hl]
    by_cases hcontinued : IsContinued (l ++ '\n' :: b)
    · refine iff_of_false ?_ (not_not_intro (.inl hcontinued))
      intro heq
      obtain ⟨alone, r, halone, hr, hsaid⟩ := said_of_isContinued hl hcontinued
      rw [halone, List.singleton_append] at heq
      rcases hsaid with hsaid | ⟨other, hother, hsaid⟩
      · have hlength := congrArg List.length (hsaid.symm.trans heq)
        have hbehind := length_said_le (nextLine r)
        have hrest := length_saidByLine_nextLine_le hl hr
        rw [List.length_cons] at hlength
        omega
      · exact hother (List.cons.inj (hsaid.symm.trans heq)).1
    · rw [said_append hl hcontinued, List.append_cancel_left_eq, ih, or_iff_right hcontinued]

/-- A line of a diff of a requirements file: an added line, a context line, or an empty one. -/
def IsVisible (l : Text) : Prop := ∀ c ∈ l.head?, c = '+' ∨ c = ' '

instance : DecidablePred IsVisible := fun l =>
  decidable_of_iff (l.head?.all fun c => c == '+' || c == ' ') <| by
    simp [IsVisible, Option.all_eq_true]

def isAdded (l : Text) : Bool := l.head? == some '+'

theorem said_of_not_added {l : Text} (hl : '\n' ∉ l) (h : IsVisible l)
    (hadded : isAdded l = false) : said l = [] := by
  have hname : run? isNameChar l = none := by
    cases l with
    | nil => rfl
    | cons c l =>
      rcases h c rfl with rfl | rfl
      · cases hadded
      · rfl
  rw [said_eq, all_of_no_name hname, nextLine_of_not_mem hl, all_nil]
  rfl

/-- Of the lines of a diff the added ones are judged, each by itself, exactly when no added line has
its version on a later line. -/
theorem added_lines_are_judged_alone_unless_continued {content : Text}
    (h : ∀ l ∈ lines content, IsVisible l) :
    (requirements content).map Finding.message =
        ((lines content).filter isAdded).flatMap
          (fun l => (requirements l).map Finding.message) ↔
      ¬ HasContinued content := by
  have hadded : ((lines content).filter isAdded).flatMap said = saidByLine content :=
    flatMap_filter_of_nil fun l hl => said_of_not_added (not_mem_of_mem_lines hl) (h l hl)
  rw [← said_eq_saidByLine_iff, ← hadded]
  rfl

/-- A comment, an empty line and an operator without a version keep what follows them out. -/
theorem open_lines_keep_the_next_lines_out :
    let content := "+django\n\n numpy==1.26\n+# 3 pins\n+\n flask\n+attrs >=\n+2to3 ~= 1 ; x".toList
    (∀ l ∈ lines content, IsVisible l) ∧ ¬ HasContinued content ∧
      (requirements content).map Finding.message =
        [objection ⟨"+django".toList, none⟩, objection ⟨"+".toList, none⟩,
          objection ⟨"+attrs".toList, none⟩, objection ⟨"+2to3".toList, some "~= 1".toList⟩] := by
  intro content
  have hvisible : ∀ l ∈ lines content, IsVisible l := by decide +kernel
  have hcontinued : ¬ HasContinued content := by decide +kernel
  refine ⟨hvisible, hcontinued, ?_⟩
  rw [(added_lines_are_judged_alone_unless_continued hvisible).2 hcontinued]
  decide +kernel

/-- A package whose name begins with a digit is taken for the version of the package above it. -/
theorem a_context_line_is_taken_for_a_version :
    let content := "+django\n 2to3==1.0".toList
    (∀ l ∈ lines content, IsVisible l) ∧ requirements content = [] ∧
      (requirements "+django".toList).map Finding.message =
        [objection ⟨"+django".toList, none⟩] := by
  decide +kernel

end PinGate.Check
