-- The laws of the parts of a text: whether some words stand in it and what stands behind their last
-- place, what is left of it without the blanks around it, and where it is cut into pieces.
import PinGate.Text.Blank
import PinGate.Text.Lines
import Mathlib.Data.List.DropRight
import Mathlib.Data.List.Infix

namespace PinGate.Text

theorem contains_iff {p s : Text} : contains p s = true ↔ p <:+: s := by
  induction s with
  | nil => simp [contains]
  | cons c s ih => simp [contains, ih, List.infix_cons_iff, List.isPrefixOf_iff_prefix]

theorem contains_singleton {c : Char} {s : Text} : contains [c] s = true ↔ c ∈ s := by
  rw [contains_iff]
  constructor
  · intro h
    exact h.subset (List.mem_singleton_self c)
  · intro h
    obtain ⟨a, b, rfl⟩ := List.append_of_mem h
    exact ⟨a, b, by simp⟩

/-! ## The last place of some words

Words that do not overlap themselves are found behind their own place only in what follows them. -/

/-- Words that do not overlap themselves: nothing that ends them also begins them. -/
def IsUnbordered (p : Text) : Prop := ∀ q ∈ p.tails, q ≠ [] → q <+: p → q = p

instance : DecidablePred IsUnbordered := fun p =>
  inferInstanceAs (Decidable (∀ q ∈ p.tails, q ≠ [] → q <+: p → q = p))

theorem afterLast?_eq_none_iff {p s : Text} : afterLast? p s = none ↔ contains p s = false := by
  induction s with
  | nil => cases p <;> simp [afterLast?, dropPrefix?, contains]
  | cons c s ih =>
    have hprefix : dropPrefix? p (c :: s) = none ↔ p.isPrefixOf (c :: s) = false := by
      rw [← Bool.not_eq_true, List.isPrefixOf_iff_prefix, Option.eq_none_iff_forall_ne_some]
      constructor
      · rintro h ⟨r, hr⟩
        exact h r (dropPrefix?_eq_some_iff.2 hr.symm)
      · intro h r hr
        exact h ⟨r, (dropPrefix?_eq_some_iff.1 hr).symm⟩
    simp [afterLast?, contains, ih, hprefix, and_comm]

theorem afterLast?_tail_append {p : Text} (hp : IsUnbordered p) (s : Text) {q : Text}
    (hq : q <:+ p) (hlt : q.length < p.length) : afterLast? p (q ++ s) = afterLast? p s := by
  induction q with
  | nil => rfl
  | cons c q ih =>
    -- Words that started here would begin with what is left of the words before them.
    have hnone : dropPrefix? p (c :: (q ++ s)) = none := by
      rw [Option.eq_none_iff_forall_ne_some]
      intro r hr
      have hprefix : p <+: c :: q ++ s := ⟨r, (dropPrefix?_eq_some_iff.1 hr).symm⟩
      have hborder : c :: q <+: p :=
        List.prefix_of_prefix_length_le (List.prefix_append _ _) hprefix hlt.le
      have heq := hp (c :: q) ((List.mem_tails _ _).2 hq) (List.cons_ne_nil _ _) hborder
      rw [heq] at hlt
      exact Nat.lt_irrefl _ hlt
    rw [List.length_cons] at hlt
    have hrest := ih ((List.suffix_cons c q).trans hq) (by omega)
    rw [List.cons_append, afterLast?, hrest, hnone]
    cases afterLast? p s <;> rfl

/-- Behind such words stands what follows their last place in the rest, or the whole rest. -/
theorem afterLast?_append_self {p : Text} (hp : IsUnbordered p) (hne : p ≠ []) (s : Text) :
    afterLast? p (p ++ s) = some ((afterLast? p s).getD s) := by
  obtain ⟨c, q, rfl⟩ := List.exists_cons_of_ne_nil hne
  have htail := afterLast?_tail_append hp s (List.suffix_cons c q) (by simp)
  rw [List.cons_append, afterLast?, htail, ← List.cons_append, dropPrefix?_eq_some_iff.2 rfl]
  cases afterLast? (c :: q) s <;> rfl

/-- What stands behind the last place of some words, stands behind one. -/
theorem afterLast?_eq_some {p s r : Text} (h : afterLast? p s = some r) : p ++ r <:+ s := by
  induction s with
  | nil => rw [dropPrefix?_eq_some_iff.1 h]
  | cons c s ih =>
    rw [afterLast?] at h
    cases hs : afterLast? p s with
    | some r' =>
      rw [hs, Option.orElse_some] at h
      exact (ih (hs.trans h)).trans (List.suffix_cons c s)
    | none =>
      rw [hs, Option.orElse_none] at h
      rw [dropPrefix?_eq_some_iff.1 h]

/-- What stands in front of some words has no part in what stands behind their last place. -/
theorem afterLast?_append_of_some {p s r : Text} (h : afterLast? p s = some r) (a : Text) :
    afterLast? p (a ++ s) = some r := by
  induction a with
  | nil => exact h
  | cons c a ih =>
    rw [List.cons_append, afterLast?, ih]
    rfl

/-- A text is all that stands behind some words exactly if they do not stand in it. -/
theorem afterLast?_getD_eq_self_iff {p s : Text} (hp : p ≠ []) :
    (afterLast? p s).getD s = s ↔ ¬ p <:+: s := by
  rw [← contains_iff, Bool.not_eq_true, ← afterLast?_eq_none_iff]
  cases h : afterLast? p s with
  | none => simp
  | some r =>
    have hlength := (afterLast?_eq_some h).length_le
    have hpos := List.length_pos_iff.2 hp
    rw [List.length_append] at hlength
    simp only [Option.getD_some, reduceCtorEq, iff_false]
    rintro rfl
    omega

/-! ## Blanks at the ends -/

/-- Blanks are taken away behind words that begin and end without one, and not from the words. -/
theorem trim_append {a : Text} (hne : a ≠ []) (hf : ∀ c, a.head? = some c → isBlank c = false)
    (hl : ∀ c, a.getLast? = some c → isBlank c = false) (s : Text) :
    trim (a ++ s) = a ++ s.rdropWhile isBlank := by
  have hfront : (a ++ s).dropWhile isBlank = a ++ s := by
    obtain ⟨c, t, rfl⟩ := List.exists_cons_of_ne_nil hne
    simp [hf c rfl]
  have hback : a.reverse.dropWhile isBlank = a.reverse := by
    obtain ⟨t, c, rfl⟩ := List.eq_nil_or_concat a |>.resolve_left hne
    simp [hl c (by simp)]
  unfold trim List.rdropWhile
  rw [hfront, List.reverse_append, List.dropWhile_append, hback]
  split
  · rename_i hs
    simp_all
  · simp

theorem trim_of_not_blank {s : Text} (h : ∀ c ∈ s, isBlank c = false) : trim s = s := by
  cases s with
  | nil => rfl
  | cons c s =>
    have hf : ∀ d, (c :: s).head? = some d → isBlank d = false :=
      fun d hd => h d (List.mem_of_mem_head? hd)
    have hl : ∀ d, (c :: s).getLast? = some d → isBlank d = false :=
      fun d hd => h d (List.mem_of_getLast? hd)
    simpa using trim_append (List.cons_ne_nil c s) hf hl []

theorem rdropWhile_of_getLast? {p : Char → Bool} {s : Text}
    (h : ∀ c, s.getLast? = some c → p c = false) : s.rdropWhile p = s := by
  rcases List.eq_nil_or_concat s with rfl | ⟨t, c, rfl⟩
  · rfl
  · simp [h c (by simp)]

theorem takeWhile_append_single {p : Char → Bool} {c : Char} (hc : p c = false) (s : Text) :
    (s ++ [c]).takeWhile p = s.takeWhile p := by
  rw [List.takeWhile_append]
  split
  · rename_i h
    have := List.takeWhile_prefix (p := p) (l := s) |>.eq_of_length h
    simp [hc, this]
  · rfl

/-! ## Pieces -/

/-- A line feed ends the first piece of a text. -/
theorem pieces_append {w : Text} (h : ∀ c ∈ w, isLineBreak c = false) (s : Text) :
    pieces (w ++ '\n' :: s) = w :: pieces s := by
  induction w with
  | nil => rfl
  | cons c w ih =>
    have hc : isLineBreak c = false := h c List.mem_cons_self
    have hr : c ≠ '\r' := by
      rintro rfl
      cases hc
    have hw := ih fun d hd => h d (List.mem_cons_of_mem c hd)
    rw [List.cons_append, pieces]
    · simp [hc, hw]
    · rintro _ rfl
      exact absurd rfl hr

end PinGate.Text
