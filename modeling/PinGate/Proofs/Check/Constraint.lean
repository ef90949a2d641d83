-- The laws of the versions of requirements. Between a name and its version stand blanks and perhaps
-- an operator, and no digit, so the first digit behind a name tells on which line the version is.
import PinGate.Check.Requirements
import PinGate.Proofs.Text.Numbers
import PinGate.Proofs.Text.Search
import PinGate.Proofs.Text.Words

namespace PinGate.Check

open Text

namespace Requirement

/-- The operators in front of a version, none among them. -/
def operator : Language Char :=
  {op | op = ['^'] ∨ op.length ≤ 2 ∧ ∀ c ∈ op, isComparison c = true}

/-- What can stand between a name and the version. -/
def lead : Language Char := blanks * (operator * blanks)

/-- Whether the version of the requirement that begins a text stands on a later line than the
name. -/
def IsContinued (s : Text) : Prop :=
  s.takeWhile isNameChar ≠ [] ∧ ∃ front ∈ lead, ∃ d more, d.isDigit = true ∧
    front ++ d :: more = s.dropWhile isNameChar ∧ '\n' ∈ front

section

variable {s u b op gap front c r more : Text} {d : Char}

/-! ## Characters -/

theorem isComparison_of_isDigit (h : d.isDigit = true) : isComparison d = false := by
  have hd := toNat_of_isDigit h
  unfold isComparison
  simp only [Bool.or_eq_false_iff, beq_eq_false_iff_ne]
  refine ⟨⟨⟨?_, ?_⟩, ?_⟩, ?_⟩ <;> (rintro rfl; revert hd; decide)

theorem isComparison_of_isBlank (h : isBlank d = true) : isComparison d = false := by
  rw [Bool.eq_false_iff]
  intro hcomparison
  unfold isComparison at hcomparison
  simp only [Bool.or_eq_true, beq_iff_eq] at hcomparison
  rcases hcomparison with ((rfl | rfl) | rfl) | rfl <;> cases h

theorem isNameChar_of_isBlank (h : isBlank d = true) : isNameChar d = false := by
  simp [isNameChar, h]

theorem isDigit_of_isBlank (h : isBlank d = true) : d.isDigit = false := by
  rw [Bool.eq_false_iff]
  intro hdigit
  rw [isBlank_of_isDigit hdigit] at h
  cases h

theorem forall_mem_operator {p : Char → Prop} (hop : op ∈ operator) (hcaret : p '^')
    (hcomparison : ∀ c, isComparison c = true → p c) : ∀ c ∈ op, p c := by
  intro c hc
  rcases hop with rfl | ⟨-, hop⟩
  · obtain rfl := List.mem_singleton.1 hc
    exact hcaret
  · exact hcomparison c (hop c hc)

theorem isDigit_of_mem_operator (hop : op ∈ operator) : ∀ c ∈ op, c.isDigit = false := by
  apply forall_mem_operator (p := fun c => c.isDigit = false) hop (by decide)
  intro c hc
  rw [Bool.eq_false_iff]
  intro hdigit
  rw [isComparison_of_isDigit hdigit] at hc
  cases hc

theorem isBlank_of_mem_operator (hop : op ∈ operator) : ∀ c ∈ op, isBlank c = false := by
  apply forall_mem_operator (p := fun c => isBlank c = false) hop (by decide)
  intro c hc
  rw [Bool.eq_false_iff]
  intro hblank
  rw [isComparison_of_isBlank hblank] at hc
  cases hc

/-- Nothing in front of the first digit of a version is a digit. -/
theorem takeWhile_lead (hfront : front ∈ lead) (hd : d.isDigit = true) :
    (front ++ d :: more).takeWhile (fun c => !c.isDigit) = front := by
  obtain ⟨gap, hgap, _, ⟨op, hop, gap', hgap', rfl⟩, rfl⟩ := hfront
  have hall : ∀ c ∈ gap ++ (op ++ gap'), c.isDigit = false := by
    simp only [List.forall_mem_append]
    exact ⟨fun c hc => isDigit_of_isBlank (hgap c hc), isDigit_of_mem_operator hop,
      fun c hc => isDigit_of_isBlank (hgap' c hc)⟩
  rw [List.takeWhile_append_of_pos, List.takeWhile_cons_of_neg, List.append_nil]
  · simp [hd]
  · intro c hc
    simp [hall c hc]

/-! ## Operators -/

theorem operatorLength_of_ne (h : s.head? ≠ some '^') :
    operatorLength s = ((s.takeWhile isComparison).take 2).length := by
  unfold operatorLength
  split
  · exact absurd rfl h
  · rfl

theorem operatorLength_eq (hop : op ∈ operator) (hgap : gap ∈ blanks) (hd : d.isDigit = true) :
    operatorLength (op ++ (gap ++ d :: more)) = op.length := by
  rcases hop with rfl | ⟨hlen, hop⟩
  · rfl
  · have hstop : (gap ++ d :: more).takeWhile isComparison = [] := by
      cases gap with
      | nil => simp [isComparison_of_isDigit hd]
      | cons e gap => simp [isComparison_of_isBlank (hgap e List.mem_cons_self)]
    have hhead : (op ++ (gap ++ d :: more)).head? ≠ some '^' := by
      intro h
      cases op with
      | cons e op =>
        cases h
        cases hop '^' List.mem_cons_self
      | nil =>
        cases gap with
        | cons e gap =>
          cases h
          cases hgap '^' List.mem_cons_self
        | nil =>
          cases h
          cases hd
    rw [operatorLength_of_ne hhead, List.takeWhile_append_of_pos hop, hstop, List.append_nil,
      List.take_of_length_le hlen]

theorem take_mem_operator (s : Text) : s.take (operatorLength s) ∈ operator := by
  by_cases h : s.head? = some '^'
  · cases s with
    | nil => cases h
    | cons e s =>
      cases h
      exact .inl rfl
  · have hprefix : (s.takeWhile isComparison).take 2 <+: s :=
      (List.take_prefix _ _).trans (List.takeWhile_prefix _)
    rw [operatorLength_of_ne h, ← List.prefix_iff_eq_take.1 hprefix]
    refine .inr ⟨List.length_take_le _ _, ?_⟩
    intro c hc
    exact List.mem_takeWhile_imp (List.mem_of_mem_take hc)

/-! ## Versions -/

theorem readConstraint?_eq (hop : op ∈ operator) (hgap : gap ∈ blanks) (hd : d.isDigit = true) :
    readConstraint? (op ++ (gap ++ d :: more)) =
      some (op ++ (gap ++ d :: more.takeWhile isVersionChar), more.dropWhile isVersionChar) := by
  have hbare : IsBare (d :: more) := by
    rintro c ⟨⟩
    exact isBlank_of_isDigit hd
  have hskip : skipBlanks (gap ++ d :: more) = d :: more := skipBlanks_append hgap hbare
  have hgap_run : (gap ++ d :: more).takeWhile isBlank = gap := by
    rw [List.takeWhile_append_of_pos hgap, List.takeWhile_cons_of_neg, List.append_nil]
    simp [isBlank_of_isDigit hd]
  unfold readConstraint?
  simp only [operatorLength_eq hop hgap hd, List.drop_left, List.take_left, hskip, hgap_run, hd,
    if_true, List.append_assoc]

theorem readConstraint?_of_lead (hfront : front ∈ lead) (hd : d.isDigit = true) :
    readConstraint? (skipBlanks (front ++ d :: more)) =
      some (skipBlanks front ++ d :: more.takeWhile isVersionChar,
        more.dropWhile isVersionChar) := by
  obtain ⟨gap, hgap, _, ⟨op, hop, gap', hgap', rfl⟩, rfl⟩ := hfront
  have hdigit : IsBare (d :: more) := by
    rintro c ⟨⟩
    exact isBlank_of_isDigit hd
  cases op with
  | nil =>
    -- Without an operator all blanks stand in front of the digit.
    have hblank : ∀ c ∈ gap ++ ([] ++ gap'), isBlank c = true :=
      List.forall_mem_append.2 ⟨hgap, hgap'⟩
    rw [skipBlanks_append hblank hdigit, skipBlanks_eq_nil_iff.2 hblank]
    exact readConstraint?_eq hop (List.forall_mem_nil _) hd
  | cons e op =>
    have hbare : ∀ t, IsBare (e :: op ++ t) := by
      rintro t c ⟨⟩
      exact isBlank_of_mem_operator hop e List.mem_cons_self
    rw [skipBlanks_append hgap (hbare _), List.append_assoc, List.append_assoc,
      skipBlanks_append hgap (hbare _), readConstraint?_eq hop hgap' hd, List.append_assoc]

/-- A constraint is what stands behind the first blanks, up to the end of the version. -/
theorem readConstraint?_eq_some_iff : readConstraint? (skipBlanks u) = some (c, r) ↔
    ∃ front ∈ lead, ∃ d more, d.isDigit = true ∧ front ++ d :: more = u ∧
      skipBlanks front ++ d :: more.takeWhile isVersionChar = c ∧
        more.dropWhile isVersionChar = r := by
  constructor
  · intro h
    have hread := h
    unfold readConstraint? at hread
    dsimp only at hread
    split at hread
    · next d more hmore =>
      split at hread
      · next hd =>
        obtain ⟨gap, hgap, hu⟩ := exists_blanks_append u
        obtain ⟨gap', hgap', hs⟩ :=
          exists_blanks_append ((skipBlanks u).drop (operatorLength (skipBlanks u)))
        have hfront : gap ++ ((skipBlanks u).take (operatorLength (skipBlanks u)) ++ gap') ∈ lead :=
          ⟨gap, hgap, _, ⟨_, take_mem_operator _, gap', hgap', rfl⟩, rfl⟩
        have hsplit : gap ++ ((skipBlanks u).take (operatorLength (skipBlanks u)) ++ gap') ++
            d :: more = u := by
          rw [List.append_assoc, List.append_assoc, ← hmore, hs, List.take_append_drop, hu]
        rw [← hsplit, readConstraint?_of_lead hfront hd] at h
        cases h
        exact ⟨_, hfront, d, more, hd, hsplit, rfl, rfl⟩
      · cases hread
    · cases hread
  · rintro ⟨front, hfront, d, more, hd, rfl, rfl, rfl⟩
    exact readConstraint?_of_lead hfront hd

theorem isSome_readConstraint?_iff : (readConstraint? (skipBlanks u)).isSome = true ↔
    ∃ front ∈ lead, ∃ d more, d.isDigit = true ∧ front ++ d :: more = u := by
  rw [Option.isSome_iff_exists, Prod.exists]
  simp only [readConstraint?_eq_some_iff]
  constructor
  · rintro ⟨c, r, front, hfront, d, more, hd, hu, -, -⟩
    exact ⟨front, hfront, d, more, hd, hu⟩
  · rintro ⟨front, hfront, d, more, hd, hu⟩
    exact ⟨_, _, front, hfront, d, more, hd, hu, rfl, rfl⟩

/-- What a constraint leaves over stands at the end of the text. -/
theorem readConstraint?_suffix (h : readConstraint? (skipBlanks u) = some (c, r)) : r <:+ u := by
  obtain ⟨front, -, d, more, -, rfl, -, rfl⟩ := readConstraint?_eq_some_iff.1 h
  exact (List.dropWhile_suffix _).trans ((List.suffix_cons d more).trans (List.suffix_append _ _))

theorem isContinued_iff : IsContinued s ↔ s.takeWhile isNameChar ≠ [] ∧
    (readConstraint? (skipBlanks (s.dropWhile isNameChar))).isSome = true ∧
    '\n' ∈ (s.dropWhile isNameChar).takeWhile (fun c => !c.isDigit) := by
  unfold IsContinued
  refine and_congr_right fun _ => ?_
  rw [isSome_readConstraint?_iff]
  constructor
  · rintro ⟨front, hfront, d, more, hd, hs, hbreak⟩
    refine ⟨⟨front, hfront, d, more, hd, hs⟩, ?_⟩
    rwa [← hs, takeWhile_lead hfront hd]
  · rintro ⟨⟨front, hfront, d, more, hd, hs⟩, hbreak⟩
    refine ⟨front, hfront, d, more, hd, hs, ?_⟩
    rwa [← hs, takeWhile_lead hfront hd] at hbreak

instance : DecidablePred IsContinued := fun _ => decidable_of_iff' _ isContinued_iff

/-! ## In front of a line feed -/

theorem readConstraint?_line (h : readConstraint? (skipBlanks u) = some (c, r)) (b : Text) :
    readConstraint? (skipBlanks (u ++ '\n' :: b)) = some (c, r ++ '\n' :: b) := by
  obtain ⟨front, hfront, d, more, hd, rfl, rfl, rfl⟩ := readConstraint?_eq_some_iff.1 h
  rw [List.append_assoc, List.cons_append, readConstraint?_of_lead hfront hd,
    takeWhile_append_stop (by decide), dropWhile_append_stop (by decide)]

/-- A constraint that is read from a line and what follows it is read from the line alone unless a
line feed stands in front of its digit. -/
theorem readConstraint?_eq_none_iff (hu : '\n' ∉ u)
    (hsome : (readConstraint? (skipBlanks (u ++ '\n' :: b))).isSome = true) :
    readConstraint? (skipBlanks u) = none ↔
      '\n' ∈ (u ++ '\n' :: b).takeWhile (fun c => !c.isDigit) := by
  obtain ⟨front, hfront, d, more, hd, hs⟩ := isSome_readConstraint?_iff.1 hsome
  rw [← Option.not_isSome_iff_eq_none, isSome_readConstraint?_iff]
  constructor
  · intro hnone
    rw [← hs, takeWhile_lead hfront hd]
    have hdigit : d ≠ '\n' := by
      rintro rfl
      cases hd
    rcases List.append_eq_append_iff.1 hs with ⟨rest, rfl, hrest⟩ | ⟨rest, rfl, hrest⟩
    · cases rest with
      | nil => exact absurd (List.cons.inj hrest).1 hdigit
      | cons e rest =>
        obtain ⟨rfl, -⟩ := List.cons.inj hrest
        exact absurd ⟨front, hfront, d, rest, hd, rfl⟩ hnone
    · cases rest with
      | nil => exact absurd (List.cons.inj hrest).1.symm hdigit
      | cons e rest =>
        obtain ⟨rfl, -⟩ := List.cons.inj hrest
        simp
  · rintro hbreak ⟨front', hfront', d', more', hd', rfl⟩
    rw [List.append_assoc, List.cons_append, takeWhile_lead hfront' hd'] at hbreak
    exact hu (List.mem_append_left _ hbreak)

end

end Requirement

end PinGate.Check
