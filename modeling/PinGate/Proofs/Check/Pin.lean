-- Requirements of one line by their comparison. An exact pin is passed, and a range is objected
-- to by its constraint; but the sign `!` can stand in a name, so an exclusion is objected to only
-- where a blank keeps it apart from the name, and else it is taken for a pin.
import PinGate.Proofs.Check.Requirements

namespace PinGate.Check

open Text Requirement

/-- How the version of a requirement is compared. -/
inductive Comparison where
  | exactly | differs | compatible | atLeast | atMost | above | below
  deriving Repr, DecidableEq

def Comparison.text : Comparison → Text
  | exactly => ['=', '=']
  | differs => ['!', '=']
  | compatible => ['~', '=']
  | atLeast => ['>', '=']
  | atMost => ['<', '=']
  | above => ['>']
  | below => ['<']

/-- An added line with a name, a comparison and a version, and perhaps blanks between them. -/
structure PinLine where
  name : Text
  gap : Text
  comparison : Comparison
  gapBehind : Text
  digit : Char
  more : Text
  name_plain : ∀ c ∈ name, isBlank c = false ∧ c ∉ ['=', '<', '>', '~', '!', ';']
  gap_blank : ∀ c ∈ gap, isBlank c = true ∧ c ≠ '\n'
  gapBehind_blank : ∀ c ∈ gapBehind, isBlank c = true ∧ c ≠ '\n'
  digit_isDigit : digit.isDigit = true
  more_plain : ∀ c ∈ more, isBlank c = false ∧ c ∉ [';', '<', '>', '~', ',']

namespace PinLine

/-- The name with the marker in front of it. -/
def marked (p : PinLine) : Text := '+' :: p.name

def version (p : PinLine) : Text := p.digit :: p.more

/-- The comparison with the version. -/
def constraint (p : PinLine) : Text := p.comparison.text ++ (p.gapBehind ++ p.version)

/-- The line itself. -/
def text (p : PinLine) : Text := p.marked ++ (p.gap ++ p.constraint)

/-- What is said about the line: nothing about a pin, and one thing about all else, except that an
exclusion that touches the name goes unseen. -/
structure JudgedByComparison (p : PinLine) : Prop where
  pinned : p.comparison = .exactly → requirements p.text = []
  ranged : p.comparison ≠ .exactly → p.comparison ≠ .differs →
    requirements p.text = [.requirementRange p.marked (some p.constraint)]
  apart : p.comparison = .differs → p.gap ≠ [] →
    requirements p.text = [.requirementRange p.marked none]
  touching : p.comparison = .differs → p.gap = [] → requirements p.text = []

end PinLine

/-! ## One requirement -/

section

variable {name gap op gapBehind more c u : Text} {d : Char}

theorem all_of_comparison (hne : name ≠ []) (hname : ∀ c ∈ name, isNameChar c = true)
    (hgap : gap ∈ blanks) (hop : op ≠ []) (hcomparison : ∀ c ∈ op, isComparison c = true)
    (hlen : op.length ≤ 2) (hbehind : gapBehind ∈ blanks) (hd : d.isDigit = true)
    (hmore : ∀ c ∈ more, isVersionChar c = true) :
    all (name ++ (gap ++ (op ++ (gapBehind ++ d :: more)))) =
      [⟨name, some (op ++ (gapBehind ++ d :: more))⟩] := by
  have hend : ∀ c ∈ (gap ++ (op ++ (gapBehind ++ d :: more))).head?, isNameChar c = false := by
    intro c hc
    cases gap with
    | cons b gap =>
      cases hc
      exact isNameChar_of_isBlank (hgap _ List.mem_cons_self)
    | nil =>
      obtain ⟨b, op, rfl⟩ := List.exists_cons_of_ne_nil hop
      cases hc
      have hb := hcomparison _ List.mem_cons_self
      simp [isNameChar, hb]
  have hlead : gap ++ (op ++ gapBehind) ∈ lead :=
    ⟨gap, hgap, _, ⟨op, .inr ⟨hlen, hcomparison⟩, gapBehind, hbehind, rfl⟩, rfl⟩
  have hbare : IsBare (op ++ gapBehind) := by
    obtain ⟨b, op, rfl⟩ := List.exists_cons_of_ne_nil hop
    rintro c ⟨⟩
    exact isBlank_of_mem_operator (.inr ⟨hlen, hcomparison⟩) b List.mem_cons_self
  have hread : readConstraint? (skipBlanks (gap ++ (op ++ gapBehind) ++ d :: more)) = _ :=
    readConstraint?_of_lead hlead hd
  rw [skipBlanks_append hgap hbare, List.takeWhile_eq_self_iff.2 hmore,
    List.dropWhile_eq_nil_iff.2 hmore] at hread
  simp only [List.append_assoc] at hread
  rw [all_of_constraint (run?_append hne hname hend) hread]
  exact congrArg _ all_nil

/-- Behind a name and blanks something that begins no constraint is passed over with its line. -/
theorem all_of_exclusion (hne : name ≠ []) (hname : ∀ c ∈ name, isNameChar c = true)
    (hgap : gap ∈ blanks) (hgap_ne : gap ≠ []) (hline : '\n' ∉ gap ++ '!' :: u) :
    all (name ++ (gap ++ '!' :: u)) = [⟨name, none⟩] := by
  have hend : ∀ c ∈ (gap ++ '!' :: u).head?, isNameChar c = false := by
    obtain ⟨b, gap, rfl⟩ := List.exists_cons_of_ne_nil hgap_ne
    rintro c ⟨⟩
    exact isNameChar_of_isBlank (hgap b List.mem_cons_self)
  have hnone : readConstraint? (skipBlanks (gap ++ '!' :: u)) = none := by
    rw [skipBlanks_append hgap (by rintro c ⟨⟩; rfl)]
    rfl
  rw [all_of_no_constraint (run?_append hne hname hend) hnone, nextLine_of_not_mem hline, all_nil]

theorem isRange_iff : isRange ⟨name, some c⟩ = true ↔
    ['~', '='] <:+: c ∨ '>' ∈ c ∨ '<' ∈ c := by
  unfold isRange
  simp only [Bool.or_eq_true, contains_singleton, or_assoc]
  rw [contains_iff]

theorem isRange_of_free (h : ∀ e ∈ c, e ∉ ['<', '>', '~']) : isRange ⟨name, some c⟩ = false := by
  rw [Bool.eq_false_iff, Ne, isRange_iff]
  rintro (hc | hc | hc)
  · exact h '~' (hc.subset List.mem_cons_self) (by decide)
  · exact h '>' hc (by decide)
  · exact h '<' hc (by decide)

end

/-! ## One line -/

namespace PinLine

variable (p : PinLine)

theorem gap_mem_blanks : p.gap ∈ blanks := fun c hc => (p.gap_blank c hc).1

theorem gapBehind_mem_blanks : p.gapBehind ∈ blanks := fun c hc => (p.gapBehind_blank c hc).1

theorem isNameChar_marked : ∀ c ∈ p.marked, isNameChar c = true := by
  have hname : ∀ c ∈ p.name, isNameChar c = true := by
    intro c hc
    obtain ⟨hblank, hsign⟩ := p.name_plain c hc
    simp only [List.mem_cons, not_or] at hsign
    simp [isNameChar, isComparison, hblank, hsign]
  exact List.forall_mem_cons.2 ⟨rfl, hname⟩

theorem isVersionChar_more : ∀ c ∈ p.more, isVersionChar c = true := by
  intro c hc
  obtain ⟨hblank, hsign⟩ := p.more_plain c hc
  simp only [List.mem_cons, not_or] at hsign
  simp [isVersionChar, hblank, hsign]

/-- Behind the comparison stands nothing that a range is told by. -/
theorem version_free : ∀ e ∈ p.gapBehind ++ p.version, e ∉ ['<', '>', '~'] := by
  have hgap : ∀ e ∈ p.gapBehind, e ∉ ['<', '>', '~'] := by
    rintro e he hsign
    have hblank := p.gapBehind_mem_blanks e he
    simp only [List.mem_cons, List.not_mem_nil, or_false] at hsign
    rcases hsign with rfl | rfl | rfl <;> cases hblank
  have hdigit : p.digit ∉ ['<', '>', '~'] := by
    intro hsign
    have hd := p.digit_isDigit
    simp only [List.mem_cons, List.not_mem_nil, or_false] at hsign
    rcases hsign with h | h | h <;> rw [h] at hd <;> cases hd
  have hmore : ∀ e ∈ p.more, e ∉ ['<', '>', '~'] := by
    intro e he hsign
    have hsub : ['<', '>', '~'] ⊆ [';', '<', '>', '~', ','] := by decide
    exact (p.more_plain e he).2 (hsub hsign)
  exact List.forall_mem_append.2 ⟨hgap, List.forall_mem_cons.2 ⟨hdigit, hmore⟩⟩

theorem not_mem_text : '\n' ∉ p.gap ++ p.constraint := by
  have hblank : ∀ c, isBlank c = false → c ≠ '\n' := by
    rintro c hc rfl
    cases hc
  have hcomparison : '\n' ∉ p.comparison.text := by cases p.comparison <;> decide
  have hdigit : p.digit ≠ '\n' := hblank _ (isBlank_of_isDigit p.digit_isDigit)
  simp only [constraint, version, List.mem_append, List.mem_cons, not_or]
  refine ⟨fun h => (p.gap_blank _ h).2 rfl, hcomparison, fun h => (p.gapBehind_blank _ h).2 rfl,
    hdigit.symm, fun h => hblank _ (p.more_plain _ h).1 rfl⟩

/-- Where the comparison is made of signs that end a name, it is read with the version. -/
theorem requirements_of_comparison (h : ∀ c ∈ p.comparison.text, isComparison c = true) :
    requirements p.text = if isRange ⟨p.marked, some p.constraint⟩ then
      [.requirementRange p.marked (some p.constraint)] else [] := by
  have hne : p.comparison.text ≠ [] := by cases p.comparison <;> decide
  have hlen : p.comparison.text.length ≤ 2 := by cases p.comparison <;> decide
  have hall : all p.text = [⟨p.marked, some p.constraint⟩] :=
    all_of_comparison (List.cons_ne_nil _ _) p.isNameChar_marked p.gap_mem_blanks hne h hlen
      p.gapBehind_mem_blanks p.digit_isDigit p.isVersionChar_more
  unfold requirements
  rw [hall]
  by_cases hrange : isRange ⟨p.marked, some p.constraint⟩ = true <;> simp [hrange]

theorem requirements_of_pin (h : p.comparison = .exactly) : requirements p.text = [] := by
  have hfree : ∀ e ∈ p.constraint, e ∉ ['<', '>', '~'] := by
    unfold constraint
    rw [h]
    exact List.forall_mem_append.2 ⟨by decide, p.version_free⟩
  rw [p.requirements_of_comparison (by rw [h]; decide), isRange_of_free hfree]
  rfl

theorem requirements_of_range (hpin : p.comparison ≠ .exactly)
    (hexclusion : p.comparison ≠ .differs) :
    requirements p.text = [.requirementRange p.marked (some p.constraint)] := by
  have hsigns : ∀ c ∈ p.comparison.text, isComparison c = true := by
    cases h : p.comparison with
    | differs => exact absurd h hexclusion
    | _ => decide
  rw [p.requirements_of_comparison hsigns, if_pos]
  rw [isRange_iff]
  unfold constraint
  cases h : p.comparison with
  | exactly => exact absurd h hpin
  | differs => exact absurd h hexclusion
  | compatible => exact .inl (List.prefix_append _ _).isInfix
  | atLeast | above => exact .inr (.inl (by simp [Comparison.text]))
  | atMost | below => exact .inr (.inr (by simp [Comparison.text]))

theorem requirements_of_exclusion (h : p.comparison = .differs) (hgap : p.gap ≠ []) :
    requirements p.text = [.requirementRange p.marked none] := by
  have hline := p.not_mem_text
  have hconstraint : p.constraint = '!' :: '=' :: (p.gapBehind ++ p.version) := by
    unfold constraint
    rw [h]
    rfl
  rw [hconstraint] at hline
  have hall : all p.text = [⟨p.marked, none⟩] := by
    unfold text
    rw [hconstraint]
    exact all_of_exclusion (List.cons_ne_nil _ _) p.isNameChar_marked p.gap_mem_blanks hgap hline
  unfold requirements
  rw [hall]
  rfl

/-- The first sign of an exclusion goes to the name, so what is left of it is no range. -/
theorem requirements_of_touching (h : p.comparison = .differs) (hgap : p.gap = []) :
    requirements p.text = [] := by
  have hname : ∀ c ∈ p.marked ++ ['!'], isNameChar c = true :=
    List.forall_mem_append.2 ⟨p.isNameChar_marked, by decide⟩
  have hall : all (p.marked ++ ['!'] ++ ([] ++ (['='] ++ (p.gapBehind ++ p.version)))) =
      [⟨p.marked ++ ['!'], some (['='] ++ (p.gapBehind ++ p.version))⟩] :=
    all_of_comparison (by simp) hname (List.forall_mem_nil _) (by decide) (by decide) (by decide)
      p.gapBehind_mem_blanks p.digit_isDigit p.isVersionChar_more
  have htext : p.text = p.marked ++ ['!'] ++ ([] ++ (['='] ++ (p.gapBehind ++ p.version))) := by
    unfold text constraint
    rw [h, hgap]
    simp [Comparison.text]
  have hfree : ∀ e ∈ ['='] ++ (p.gapBehind ++ p.version), e ∉ ['<', '>', '~'] :=
    List.forall_mem_append.2 ⟨by decide, p.version_free⟩
  unfold requirements
  rw [htext, hall, List.filter_cons_of_neg (Bool.eq_false_iff.1 (isRange_of_free hfree))]
  rfl

end PinLine

/-- A line is judged by its comparison: only an exact pin is passed, and an exclusion without a
blank in front of it. -/
theorem lines_are_judged_by_their_comparison (p : PinLine) : p.JudgedByComparison where
  pinned := p.requirements_of_pin
  ranged := p.requirements_of_range
  apart := p.requirements_of_exclusion
  touching := p.requirements_of_touching

/-- An exclusion, perhaps behind a blank. -/
def exclusion (gap : Text) (h : ∀ c ∈ gap, isBlank c = true ∧ c ≠ '\n') : PinLine where
  name := "django".toList
  gap := gap
  comparison := .differs
  gapBehind := []
  digit := '2'
  more := ".0".toList
  name_plain := by decide
  gap_blank := h
  gapBehind_blank := by decide
  digit_isDigit := rfl
  more_plain := by decide

theorem an_exclusion_passes_behind_its_name :
    requirements "+django!=2.0".toList = [] ∧
      requirements "+django !=2.0".toList = [.requirementRange "+django".toList none] :=
  ⟨(lines_are_judged_by_their_comparison (exclusion [] (by decide))).touching rfl rfl,
    (lines_are_judged_by_their_comparison (exclusion [' '] (by decide))).apart rfl (by decide)⟩

end PinGate.Check
