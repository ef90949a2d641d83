-- The edges of a text. Blanks around a text add no place where a phrase stands, and what is cut at
-- the first place of a word is cut at the same place whatever follows.
import Mathlib.Data.List.Forall2
import PinGate.Proofs.Text.Words

namespace PinGate.Text

variable {l m : Language Char} {s w b before after : Text} {c : Char}

/-! ## Backwards -/

theorem occurs_reverse_iff : Occurs l.reverse s.reverse ↔ Occurs l s := by
  unfold Occurs
  constructor
  · rintro ⟨t, ht, hts⟩
    refine ⟨t.reverse, ht, ?_⟩
    rw [← List.reverse_infix, List.reverse_reverse]
    exact hts
  · rintro ⟨t, ht, hts⟩
    exact ⟨t.reverse, Language.reverse_mem_reverse.2 ht, List.reverse_infix.2 hts⟩

theorem anyCase_reverse (w : Text) : (anyCase w).reverse = anyCase w.reverse := by
  ext t
  rw [Language.mem_reverse]
  unfold anyCase
  change List.Forall₂ _ w t.reverse ↔ List.Forall₂ _ w.reverse t
  rw [← List.forall₂_reverse_iff, List.reverse_reverse]

theorem isFirm_phrase_reverse {ws : List Text} (hne : ws ≠ [])
    (h : ∀ w ∈ ws, isSolid w.reverse = true) : IsFirm (phrase ws).reverse := by
  induction ws with
  | nil => exact absurd rfl hne
  | cons w ws ih =>
    cases ws with
    | nil =>
      rw [phrase, anyCase_reverse]
      exact isFirm_anyCase (h w List.mem_cons_self)
    | cons v vs =>
      have hrest := ih (List.cons_ne_nil v vs) fun v' hv' => h v' (List.mem_cons_of_mem w hv')
      have hphrase : phrase (w :: v :: vs) = anyCase w * (someBlanks * phrase (v :: vs)) := rfl
      rw [hphrase, Language.reverse_mul, Language.reverse_mul]
      exact (hrest.mul _).mul _

theorem IsFirm.add (hl : IsFirm l) (hm : IsFirm m) : IsFirm (l + m) := by
  intro t ht
  rcases (Language.mem_add l m t).1 ht with ht | ht
  · exact hl t ht
  · exact hm t ht

/-! ## Blanks around a text -/

theorem Occurs.of_infix {u : Text} (h : Occurs l u) (hu : u <:+: s) : Occurs l s := by
  obtain ⟨t, ht, htu⟩ := h
  exact ⟨t, ht, htu.trans hu⟩

theorem occurs_cons_iff (hl : IsFirm l) (hc : isBlank c = true) :
    Occurs l (c :: s) ↔ Occurs l s := by
  constructor
  · rintro ⟨t, ht, hts⟩
    rcases List.infix_cons_iff.1 hts with hprefix | hinfix
    · obtain ⟨hne, hbare⟩ := hl t ht
      obtain ⟨d, t, rfl⟩ := List.exists_cons_of_ne_nil hne
      obtain ⟨rfl, -⟩ := List.cons_prefix_cons.1 hprefix
      rw [hbare d rfl] at hc
      cases hc
    · exact ⟨t, ht, hinfix⟩
  · intro h
    exact h.of_suffix (List.suffix_cons c s)

theorem occurs_blanks_append_iff (hl : IsFirm l) {gap : Text} (hgap : gap ∈ blanks) :
    Occurs l (gap ++ s) ↔ Occurs l s := by
  induction gap with
  | nil => rfl
  | cons c gap ih =>
    rw [List.cons_append, occurs_cons_iff hl (hgap c List.mem_cons_self)]
    exact ih fun d hd => hgap d (List.mem_cons_of_mem c hd)

theorem occurs_concat_iff (hl : IsFirm l.reverse) (hc : isBlank c = true) :
    Occurs l (s ++ [c]) ↔ Occurs l s := by
  rw [← occurs_reverse_iff, List.reverse_append, ← occurs_reverse_iff (s := s)]
  exact occurs_cons_iff hl hc

/-! ## Words in front of a foreign character -/

/-- Whether a character is no form of any letter of a word. -/
def IsForeign (w : Text) (c : Char) : Prop := ∀ k ∈ w, isFormOf k c = false

instance (w : Text) : DecidablePred (IsForeign w) := fun c =>
  List.decidableBAll (isFormOf · c = false) w

theorem dropWord?_append (h : IsForeign w c) (s b : Text) :
    dropWord? w (s ++ c :: b) = (dropWord? w s).map (· ++ c :: b) := by
  induction w generalizing s with
  | nil => rfl
  | cons k w ih =>
    have hw : IsForeign w c := fun k' hk' => h k' (List.mem_cons_of_mem k hk')
    cases s with
    | nil => simp [dropWord?, h k List.mem_cons_self]
    | cons d s =>
      by_cases hd : isFormOf k d = true
      · simp [dropWord?, hd, ih hw]
      · simp [dropWord?, hd]

/-- The first place of a word stays the first one whatever follows: in all cases a word has the same
length, so what begins in front of that place ends in front of the end of the text. -/
theorem IsFirst.append (h : IsFirst (anyCase w) s before after) (b : Text) :
    IsFirst (anyCase w) (s ++ b) before (after ++ b) := by
  obtain ⟨⟨t, ht, rfl⟩, hfirst⟩ := h
  refine ⟨⟨t, ht, by simp⟩, ?_⟩
  intro a t' b' ht' ha
  by_contra hlt
  have hlonger : a ++ t' <+: before ++ (t ++ after) ++ b := by
    refine ⟨b', ?_⟩
    rw [← ha, List.append_assoc]
  have hlength : (a ++ t').length ≤ (before ++ (t ++ after)).length := by
    simp only [List.length_append, length_of_mem_anyCase ht, length_of_mem_anyCase ht']
    omega
  obtain ⟨r, hr⟩ := List.prefix_of_prefix_length_le hlonger (List.prefix_append _ b) hlength
  rw [List.append_assoc] at hr
  exact hlt (hfirst a t' r ht' hr)

theorem cutAt?_append_of_none (h : IsForeign w c) (hs : cutAt? w s = none) :
    cutAt? w (s ++ c :: b) = (cutAt? w b).map fun p => (s ++ c :: p.1, p.2) := by
  have hdrop := dropWord?_append h
  induction s with
  | nil =>
    have hnil : dropWord? w [] = none := by simpa [cutAt?] using hs
    have hnone : dropWord? w (c :: b) = none := by
      rw [← List.nil_append (c :: b), hdrop, hnil]
      rfl
    exact cutAt?_cons_of_none hnone
  | cons d s ih =>
    cases hword : dropWord? w (d :: s) with
    | some r =>
      rw [cutAt?_of_some hword] at hs
      cases hs
    | none =>
      have hnone : dropWord? w (d :: (s ++ c :: b)) = none := by
        rw [← List.cons_append, hdrop, hword]
        rfl
      rw [cutAt?_cons_of_none hword, Option.map_eq_none_iff] at hs
      rw [List.cons_append, cutAt?_cons_of_none hnone, ih hs, Option.map_map]
      rfl

theorem cutAt?_eq_none_of_not_occurs (h : ¬ Occurs (anyCase w) s) : cutAt? w s = none := by
  rw [Option.eq_none_iff_forall_ne_some]
  rintro ⟨before, after⟩ hcut
  obtain ⟨t, ht, hs⟩ := ((cutAt?_eq_some_iff before after).1 hcut).stands
  exact h ⟨t, ht, before, after, by rw [← hs, List.append_assoc]⟩

end PinGate.Text
