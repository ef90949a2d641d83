-- The laws of the lines of a diff. A line feed cuts a diff in two, and a carriage return in front
-- of it makes no difference, so a diff can be read piece by piece.
import PinGate.Diff.Reader
import PinGate.Proofs.Text.Lines
import PinGate.Text.Lines

namespace PinGate

namespace Diff

open Text

/-! ## The lines of a diff -/

theorem not_mem_of_mem_linesOf {diff l : Text} (h : l ∈ linesOf diff) : '\n' ∉ l := by
  obtain ⟨m, hm, rfl⟩ := List.mem_map.1 h
  intro hn
  exact not_mem_of_mem_lines hm ((dropSuffix_isPrefix _ m).subset hn)

theorem linesOf_append (a b : Text) : linesOf (a ++ '\n' :: b) = linesOf a ++ linesOf b := by
  simp [linesOf, lines_append]

/-- One line, ended with or without a carriage return in front of the line feed, and more text. -/
theorem linesOf_line {l : Text} (h : '\n' ∉ l) (rest : Text) :
    linesOf (l ++ '\n' :: rest) = dropSuffix ['\r'] l :: linesOf rest ∧
      linesOf (l ++ '\r' :: '\n' :: rest) = l :: linesOf rest := by
  constructor
  · rw [linesOf_append]
    simp [linesOf, lines_of_not_mem h]
  · have hr : '\n' ∉ l ++ ['\r'] := by simp [h]
    rw [show l ++ '\r' :: '\n' :: rest = (l ++ ['\r']) ++ '\n' :: rest by simp, linesOf_append]
    simp [linesOf, lines_of_not_mem hr]

theorem linesOf_cons_of_ne {c : Char} (hn : c ≠ '\n') (hr : c ≠ '\r') (s : Text) :
    linesOf (c :: s) = (linesOf s).modifyHead (c :: ·) := by
  have hcut : ∀ l, dropSuffix ['\r'] (c :: l) = c :: dropSuffix ['\r'] l := fun l =>
    dropSuffix_append_of_getLast?_ne (a := [c]) (by simpa using hr) l
  unfold linesOf
  rw [lines_cons_of_ne hn]
  cases lines s with
  | nil => rfl
  | cons l ls => simp [hcut]

/-! ## Carriage returns -/

/-- Whether every carriage return of a text ends a line together with a line feed. -/
def ReturnsEndLines (s : Text) : Prop :=
  ∀ i < s.length, s[i]? = some '\r' → s[i + 1]? = some '\n'

instance : DecidablePred ReturnsEndLines := fun s =>
  inferInstanceAs (Decidable (∀ i < s.length, s[i]? = some '\r' → s[i + 1]? = some '\n'))

theorem ReturnsEndLines.tail {c : Char} {s : Text} (h : ReturnsEndLines (c :: s)) :
    ReturnsEndLines s := fun i hi => h (i + 1) (Nat.succ_lt_succ hi)

/-- The lines of a diff do not show whether they end with or without a carriage return. -/
theorem linesOf_unifyBreaks {diff : Text} (h : ReturnsEndLines diff) :
    linesOf (unifyBreaks diff) = linesOf diff := by
  fun_induction unifyBreaks diff with
  | case1 => rfl
  | case2 s ih =>
    have hempty := linesOf_line (l := []) List.not_mem_nil
    calc linesOf ('\n' :: unifyBreaks s)
        = [] :: linesOf (unifyBreaks s) := (hempty _).1
      _ = [] :: linesOf s := by rw [ih h.tail.tail]
      _ = linesOf ('\r' :: '\n' :: s) := (hempty s).2.symm
  | case3 c s hlone ih =>
    have hr : c ≠ '\r' := by
      rintro rfl
      have hnext : s[0]? = some '\n' := h 0 (by simp) rfl
      cases s with
      | nil => cases hnext
      | cons d s => exact hlone s rfl (by simpa using hnext)
    rw [if_neg hr]
    by_cases hn : c = '\n'
    · subst hn
      have hempty := fun s => (linesOf_line (l := []) List.not_mem_nil s).1
      rw [← List.nil_append ('\n' :: unifyBreaks s), ← List.nil_append ('\n' :: s), hempty, hempty,
        ih h.tail]
    · rw [linesOf_cons_of_ne hn hr, linesOf_cons_of_ne hn hr, ih h.tail]

/-- Nor does what is read from it. -/
theorem read_unifyBreaks {diff : Text} (h : ReturnsEndLines diff) :
    Diff.read (unifyBreaks diff) = Diff.read diff := by
  unfold Diff.read
  rw [linesOf_unifyBreaks h]

/-! ## The first line -/

/-- What a diff starts with, its first line starts with. -/
theorem linesOf_prefix {p : Text} (hn : '\n' ∉ p) (hr : p.getLast? ≠ some '\r') (t : Text) :
    ∃ l ls, linesOf (p ++ t) = (p ++ l) :: ls := by
  by_cases ht : '\n' ∈ t
  · obtain ⟨l, rest, rfl, hl⟩ := List.eq_append_cons_of_mem ht
    refine ⟨dropSuffix ['\r'] l, linesOf rest, ?_⟩
    rw [← dropSuffix_append_of_getLast?_ne hr, ← (linesOf_line (by simp [hn, hl]) rest).1]
    simp
  · refine ⟨dropSuffix ['\r'] t, [], ?_⟩
    rw [← dropSuffix_append_of_getLast?_ne hr]
    simp [linesOf, lines_of_not_mem, hn, ht]

end Diff

end PinGate
