-- The laws of lines. A line feed cuts a text in two, and the lines of the whole are those of the
-- two sides, so a text can be taken line by line.
import Mathlib.Data.List.TakeWhile
import PinGate.Text.Basic

namespace PinGate.Text

/-! ## Line feeds -/

theorem lines_append (a b : Text) : lines (a ++ '\n' :: b) = lines a ++ lines b :=
  List.splitOn_append_cons_self a b

theorem lines_of_not_mem {s : Text} (h : '\n' ∉ s) : lines s = [s] :=
  List.splitOn_eq_singleton h

/-- A line that ends, and what stands behind it. -/
theorem lines_line {l : Text} (h : '\n' ∉ l) (s : Text) :
    lines (l ++ ['\n'] ++ s) = l :: lines s := by
  rw [List.append_assoc, List.singleton_append, lines_append, lines_of_not_mem h]
  rfl

theorem lines_cons_of_ne {c : Char} (h : c ≠ '\n') (s : Text) :
    lines (c :: s) = (lines s).modifyHead (c :: ·) := by
  unfold lines
  rw [List.splitOn_cons_eq_if_modifyHead, if_neg (by simpa using h)]

theorem not_mem_of_mem_lines {s l : Text} (h : l ∈ lines s) : '\n' ∉ l := by
  induction s generalizing l with
  | nil => simp_all [lines]
  | cons c s ih =>
    by_cases hc : c = '\n'
    · subst hc
      rw [← List.nil_append ('\n' :: s), lines_append] at h
      rcases List.mem_append.1 h with h | h
      · simp_all [lines]
      · exact ih h
    · rw [lines_cons_of_ne hc] at h
      cases hs : lines s with
      | nil => simp [hs] at h
      | cons m ms =>
        rw [hs, List.modifyHead_cons] at h
        rcases List.mem_cons.1 h with rfl | h
        · simpa [Ne.symm hc] using ih (hs ▸ List.mem_cons_self)
        · exact ih (hs ▸ List.mem_cons_of_mem _ h)

theorem unlines_lines (s : Text) : unlines (lines s) = s := List.intercalate_splitOn '\n'

theorem unlines_append {a b : List Text} (ha : a ≠ []) (hb : b ≠ []) :
    unlines (a ++ b) = unlines a ++ '\n' :: unlines b := by
  induction a with
  | nil => exact absurd rfl ha
  | cons l a ih =>
    by_cases hnil : a = []
    · subst hnil
      simp [unlines, List.intercalate_cons_of_ne_nil hb]
    · have hstep : unlines (l :: (a ++ b)) = l ++ ['\n'] ++ unlines (a ++ b) :=
        List.intercalate_cons_of_ne_nil (by simp [hnil])
      have hfirst : unlines (l :: a) = l ++ ['\n'] ++ unlines a :=
        List.intercalate_cons_of_ne_nil hnil
      rw [List.cons_append, hstep, ih hnil, hfirst]
      simp

/-- Lines that are joined piece by piece, and the pieces then, are joined as one list of lines. -/
theorem unlines_map_unlines {α : Type} {f : α → List Text} (hf : ∀ a, f a ≠ []) (as : List α) :
    unlines (as.map fun a => unlines (f a)) = unlines (as.flatMap f) := by
  induction as with
  | nil => rfl
  | cons a as ih =>
    by_cases hnil : as = []
    · subst hnil
      simp [unlines]
    · have hrest : as.flatMap f ≠ [] := by
        obtain ⟨a', as, rfl⟩ := List.exists_cons_of_ne_nil hnil
        simp [hf a']
      have hstep : unlines (unlines (f a) :: as.map fun a => unlines (f a)) =
          unlines (f a) ++ ['\n'] ++ unlines (as.map fun a => unlines (f a)) :=
        List.intercalate_cons_of_ne_nil (by simpa using hnil)
      rw [List.map_cons, hstep, ih, List.flatMap_cons, unlines_append (hf a) hrest]
      simp

theorem nextLine_of_not_mem {l : Text} (h : '\n' ∉ l) : nextLine l = [] := by
  unfold nextLine
  rw [List.dropWhile_eq_nil_iff.2, List.drop_nil]
  intro c hc
  simpa using ne_of_mem_of_not_mem hc h

theorem nextLine_append {l : Text} (h : '\n' ∉ l) (b : Text) : nextLine (l ++ '\n' :: b) = b := by
  unfold nextLine
  rw [List.dropWhile_append_of_pos]
  · rfl
  · intro c hc
    simpa using ne_of_mem_of_not_mem hc h

/-! ## The end of a line -/

theorem dropSuffix_isPrefix (p s : Text) : dropSuffix p s <+: s := by
  unfold dropSuffix
  split
  · exact List.take_prefix _ s
  · exact List.prefix_rfl

@[simp]
theorem dropSuffix_append_self (p s : Text) : dropSuffix p (s ++ p) = s := by
  simp [dropSuffix]

theorem dropSuffix_of_getLast?_ne {c : Char} {s : Text} (h : s.getLast? ≠ some c) :
    dropSuffix [c] s = s := by
  unfold dropSuffix
  rw [if_neg]
  intro hs
  obtain ⟨t, rfl⟩ := List.isSuffixOf_iff_suffix.1 hs
  simp at h

/-- Only the end of a text is cut, so what stands before it can be set aside. -/
theorem dropSuffix_append_of_getLast?_ne {c : Char} {a : Text} (h : a.getLast? ≠ some c)
    (b : Text) : dropSuffix [c] (a ++ b) = a ++ dropSuffix [c] b := by
  rcases List.eq_nil_or_concat b with rfl | ⟨t, d, rfl⟩
  · rw [List.append_nil, dropSuffix_of_getLast?_ne h, dropSuffix_of_getLast?_ne (by simp)]
    simp
  · rw [List.concat_eq_append]
    by_cases hd : d = c
    · subst hd
      rw [← List.append_assoc, dropSuffix_append_self, dropSuffix_append_self]
    · rw [dropSuffix_of_getLast?_ne (by simp [hd]), dropSuffix_of_getLast?_ne (by simp [hd])]

/-- What a line starts with, it starts with when its end is cut. -/
theorem startsWith_dropSuffix {c : Char} {p : Text} (h : p.getLast? ≠ some c) (s : Text) :
    startsWith p (dropSuffix [c] s) = startsWith p s := by
  rw [Bool.eq_iff_iff]
  constructor
  · intro hp
    exact List.isPrefixOf_iff_prefix.2
      ((List.isPrefixOf_iff_prefix.1 hp).trans (dropSuffix_isPrefix _ s))
  · intro hp
    obtain ⟨t, rfl⟩ := List.isPrefixOf_iff_prefix.1 hp
    rw [dropSuffix_append_of_getLast?_ne h]
    exact List.isPrefixOf_iff_prefix.2 (List.prefix_append p _)

/-! ## One line after the other -/

/-- What is true of a single line, and of a line in front of a text when it is true of the text, is
true of all texts. -/
@[elab_as_elim]
theorem by_lines {motive : Text → Prop} (s : Text) (last : ∀ l, '\n' ∉ l → motive l)
    (more : ∀ l b, '\n' ∉ l → motive b → motive (l ++ '\n' :: b)) : motive s := by
  induction hn : s.length using Nat.strongRecOn generalizing s with
  | _ n ih =>
    by_cases hs : '\n' ∈ s
    · obtain ⟨l, b, rfl, hl⟩ := List.eq_append_cons_of_mem hs
      apply more l b hl
      apply ih b.length _ b rfl
      rw [← hn]
      simp
      omega
    · exact last s hs

/-- What comes to nothing can be left out. -/
theorem flatMap_filter_of_nil {α β : Type} {p : α → Bool} {f : α → List β} {as : List α}
    (h : ∀ a ∈ as, p a = false → f a = []) : (as.filter p).flatMap f = as.flatMap f := by
  induction as with
  | nil => rfl
  | cons a as ih =>
    have has := ih fun b hb => h b (List.mem_cons_of_mem a hb)
    cases ha : p a with
    | true => rw [List.filter_cons_of_pos ha, List.flatMap_cons, List.flatMap_cons, has]
    | false =>
      rw [List.filter_cons_of_neg (by simp [ha]), List.flatMap_cons, h a List.mem_cons_self ha, has]
      rfl

/-- What ends a text and has no line feed in it ends a line. -/
theorem exists_line_of_suffix {s : Text} (hs : '\n' ∉ s) (a : Text) :
    ∃ l ∈ lines (a ++ s), s <:+ l := by
  induction a using by_lines with
  | last l hl =>
    refine ⟨l ++ s, ?_, List.suffix_append l s⟩
    rw [lines_of_not_mem (by simp [hl, hs])]
    exact List.mem_singleton_self _
  | more l b hl ih =>
    obtain ⟨m, hm, hsm⟩ := ih
    refine ⟨m, ?_, hsm⟩
    rw [List.append_assoc, List.cons_append, lines_append]
    exact List.mem_append_right _ hm

end PinGate.Text
