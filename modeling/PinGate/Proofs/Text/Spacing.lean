-- Words with blanks between them, as they are laid out and as they are looked for. Which blanks
-- stand between the words makes no difference to a search for phrases; and a phrase that stands in
-- a row of words stands in one of them, or goes from one into the next.
import PinGate.Proofs.Text.Edges
import PinGate.Proofs.Text.Search

namespace PinGate.Text

/-! ## Other blanks -/

/-- Whether a map of characters puts blanks in the place of blanks and leaves all else alone. -/
structure IsRespacing (f : Char → Char) : Prop where
  blank : ∀ c, isBlank c = true → isBlank (f c) = true
  other : ∀ c, isBlank c = false → f c = c

/-- Whether a language does not tell one blank from another. -/
def IsSpaceBlind (l : Language Char) : Prop :=
  ∀ f, IsRespacing f → ∀ t : Text, t.map f ∈ l ↔ t ∈ l

/-- Whether a word has letters, and none is a blank, nor one in lower case. -/
def IsSolidWord (w : Text) : Prop := w ≠ [] ∧ ∀ k ∈ w, isSolid [k] = true

instance : DecidablePred IsSolidWord := fun w =>
  inferInstanceAs (Decidable (w ≠ [] ∧ ∀ k ∈ w, isSolid [k] = true))

section

variable {f : Char → Char} {l m : Language Char} {s w before after : Text} {c : Char}

theorem IsRespacing.isBlank_eq (hf : IsRespacing f) (c : Char) : isBlank (f c) = isBlank c := by
  cases hc : isBlank c with
  | true => exact hf.blank c hc
  | false => rw [hf.other c hc, hc]

/-- A blank is no form of a letter. -/
theorem isFormOf_of_isBlank {k : Char} (hk : isSolid [k] = true) (hc : isBlank c = true) :
    isFormOf k c = false := by
  simp only [isSolid, Bool.and_eq_true, Bool.not_eq_true'] at hk
  rw [Bool.eq_false_iff]
  intro hform
  rw [isBlank_of_isFormOf hk.1 hk.2 hform] at hc
  cases hc

theorem IsRespacing.isFormOf_eq (hf : IsRespacing f) {k : Char} (hk : isSolid [k] = true)
    (c : Char) : isFormOf k (f c) = isFormOf k c := by
  cases hc : isBlank c with
  | false => rw [hf.other c hc]
  | true => rw [isFormOf_of_isBlank hk hc, isFormOf_of_isBlank hk (hf.blank c hc)]

theorem isSpaceBlind_anyCase (h : IsSolidWord w) : IsSpaceBlind (anyCase w) := by
  intro f hf t
  obtain ⟨-, hw⟩ := h
  change List.Forall₂ _ w (t.map f) ↔ List.Forall₂ _ w t
  induction w generalizing t with
  | nil => simp
  | cons k w ih =>
    cases t with
    | nil => simp
    | cons c t =>
      have hrest := ih t fun d hd => hw d (List.mem_cons_of_mem k hd)
      rw [List.map_cons, List.forall₂_cons, List.forall₂_cons, hrest,
        hf.isFormOf_eq (hw k List.mem_cons_self)]

theorem IsRespacing.map_eq (hf : IsRespacing f) (h : ∀ c ∈ s, isBlank c = false) :
    s.map f = s := by
  conv_rhs => rw [← List.map_id s]
  exact List.map_congr_left fun c hc => hf.other c (h c hc)

theorem isSpaceBlind_verbatim {p : Text} (hp : ∀ c ∈ p, isBlank c = false) :
    IsSpaceBlind (verbatim p) := by
  intro f hf t
  change t.map f = p ↔ t = p
  constructor
  · rintro rfl
    refine (hf.map_eq fun c hc => ?_).symm
    rw [← hf.isBlank_eq]
    exact hp (f c) (List.mem_map_of_mem hc)
  · rintro rfl
    exact hf.map_eq hp

theorem isSpaceBlind_blanks : IsSpaceBlind blanks := by
  intro f hf t
  have hall : (∀ c ∈ t.map f, isBlank c = true) ↔ ∀ c ∈ t, isBlank c = true := by
    simp [hf.isBlank_eq]
  exact hall

theorem isSpaceBlind_someBlanks : IsSpaceBlind someBlanks := by
  intro f hf t
  exact and_congr (by simp) (isSpaceBlind_blanks f hf t)

theorem isSpaceBlind_top : IsSpaceBlind ⊤ := fun _ _ _ => Iff.rfl

theorem IsSpaceBlind.add (hl : IsSpaceBlind l) (hm : IsSpaceBlind m) : IsSpaceBlind (l + m) := by
  intro f hf t
  rw [Language.mem_add, Language.mem_add, hl f hf, hm f hf]

theorem IsSpaceBlind.mul (hl : IsSpaceBlind l) (hm : IsSpaceBlind m) : IsSpaceBlind (l * m) := by
  intro f hf t
  rw [Language.mem_mul, Language.mem_mul]
  constructor
  · rintro ⟨a, ha, b, hb, hab⟩
    obtain ⟨a, b, rfl, rfl, rfl⟩ := List.map_eq_append_iff.1 hab.symm
    exact ⟨a, (hl f hf a).1 ha, b, (hm f hf b).1 hb, rfl⟩
  · rintro ⟨a, ha, b, hb, rfl⟩
    exact ⟨a.map f, (hl f hf a).2 ha, b.map f, (hm f hf b).2 hb, List.map_append.symm⟩

theorem isSpaceBlind_phrase {ws : List Text} (h : ∀ w ∈ ws, IsSolidWord w) :
    IsSpaceBlind (phrase ws) := by
  induction ws with
  | nil =>
    intro f hf t
    simp [phrase, Language.mem_one]
  | cons w ws ih =>
    have hw := isSpaceBlind_anyCase (h w List.mem_cons_self)
    cases ws with
    | nil => exact hw
    | cons v vs =>
      exact hw.mul (isSpaceBlind_someBlanks.mul (ih fun u hu => h u (List.mem_cons_of_mem w hu)))

/-- A text of the language stands where it stood. -/
theorem IsSpaceBlind.places_iff (hl : IsSpaceBlind l) (hf : IsRespacing f) {a b : Text} :
    (∃ t ∈ l, a ++ (t ++ b) = s.map f) ↔
      ∃ a' b', a'.map f = a ∧ b'.map f = b ∧ ∃ t ∈ l, a' ++ (t ++ b') = s := by
  constructor
  · rintro ⟨t, ht, hs⟩
    obtain ⟨a', r, rfl, rfl, hr⟩ := List.map_eq_append_iff.1 hs.symm
    obtain ⟨t, b', rfl, rfl, rfl⟩ := List.map_eq_append_iff.1 hr
    exact ⟨a', b', rfl, rfl, t, (hl f hf t).1 ht, rfl⟩
  · rintro ⟨a', b', rfl, rfl, t, ht, rfl⟩
    exact ⟨t.map f, (hl f hf t).2 ht, by simp⟩

theorem IsSpaceBlind.occurs_map_iff (hl : IsSpaceBlind l) (hf : IsRespacing f) :
    Occurs l (s.map f) ↔ Occurs l s := by
  have hplaces : ∀ u, Occurs l u ↔ ∃ a b, ∃ t ∈ l, a ++ (t ++ b) = u := by
    intro u
    simp only [Occurs, List.IsInfix, List.append_assoc]
    constructor
    · rintro ⟨t, ht, a, b, h⟩
      exact ⟨a, b, t, ht, h⟩
    · rintro ⟨a, b, t, ht, h⟩
      exact ⟨t, ht, a, b, h⟩
  simp only [hplaces, hl.places_iff hf]
  constructor
  · rintro ⟨-, -, a, b, -, -, h⟩
    exact ⟨a, b, h⟩
  · rintro ⟨a, b, h⟩
    exact ⟨_, _, a, b, rfl, rfl, h⟩

theorem IsFirst.map (h : IsFirst l s before after) (hl : IsSpaceBlind l) (hf : IsRespacing f) :
    IsFirst l (s.map f) (before.map f) (after.map f) := by
  constructor
  · exact (hl.places_iff hf).2 ⟨before, after, rfl, rfl, h.stands⟩
  · intro a t b ht hs
    obtain ⟨a, b, rfl, rfl, t, ht, hs⟩ := (hl.places_iff hf).1 ⟨t, ht, hs⟩
    simpa using h.first a t b ht hs

end

/-! ## Words in a row -/

/-- Words as they stand, with blanks between each two. -/
def spaced : List Text → Language Char
  | [] => 1
  | [t] => verbatim t
  | t :: ts => verbatim t * (someBlanks * spaced ts)

/-- Whether a text is not empty and has no blank at either end. -/
structure IsWhole (t : Text) : Prop where
  ne_nil : t ≠ []
  bare : IsBare t
  bare_reverse : IsBare t.reverse

theorem ne_nil_and_isBare_iff {t : Text} :
    t ≠ [] ∧ IsBare t ↔ t.head?.any (!isBlank ·) = true := by
  cases t <;> simp [IsBare]

theorem isWhole_iff {t : Text} : IsWhole t ↔
    (t.head?.any (!isBlank ·) && t.reverse.head?.any (!isBlank ·)) = true := by
  rw [Bool.and_eq_true, ← ne_nil_and_isBare_iff, ← ne_nil_and_isBare_iff]
  constructor
  · intro h
    exact ⟨⟨h.ne_nil, h.bare⟩, List.reverse_ne_nil_iff.2 h.ne_nil, h.bare_reverse⟩
  · rintro ⟨⟨hne, hbare⟩, -, hback⟩
    exact ⟨hne, hbare, hback⟩

instance : DecidablePred IsWhole := fun _ => decidable_of_iff' _ isWhole_iff

theorem isWhole_of_ends {c d : Char} (hc : isBlank c = false) (hd : isBlank d = false) (s : Text) :
    IsWhole (c :: (s ++ [d])) := by
  rw [isWhole_iff]
  simp [hc, hd]

/-- Whether no word of a phrase ends one text where the next word of the phrase begins another. -/
def NoBridge (ws : List Text) (t u : Text) : Prop :=
  ∀ v w, [v, w] <:+: ws → (∀ x ∈ anyCase v, ¬ x <:+ t) ∨ ∀ y ∈ anyCase w, ¬ y <+: u

section

variable {ws : List Text} {a b g s t u v w : Text} {c : Char}

/-! ### Characters that are in no word -/

theorem not_mem_of_mem_anyCase (hw : IsForeign w c) (ht : t ∈ anyCase w) : c ∉ t := by
  induction w generalizing t with
  | nil =>
    obtain ⟨⟩ := ht
    exact List.not_mem_nil
  | cons k w ih =>
    obtain ⟨d, ds, hd, hds, rfl⟩ := mem_anyCase_cons.1 ht
    have hrest := ih (fun k' hk' => hw k' (List.mem_cons_of_mem k hk')) hds
    rw [List.mem_cons, not_or]
    refine ⟨?_, hrest⟩
    rintro rfl
    rw [hw k List.mem_cons_self] at hd
    cases hd

theorem IsSolidWord.isSolid (hw : IsSolidWord w) : isSolid w = true := by
  obtain ⟨hne, hw⟩ := hw
  obtain ⟨k, ks, rfl⟩ := List.exists_cons_of_ne_nil hne
  exact hw k List.mem_cons_self

theorem IsSolidWord.isForeign (hw : IsSolidWord w) (hc : isBlank c = true) : IsForeign w c :=
  fun k hk => isFormOf_of_isBlank (hw.2 k hk) hc

/-- A character that is in no word of a phrase and no blank is not in the phrase. -/
theorem not_mem_of_mem_phrase (hc : isBlank c = false) (hws : ∀ w ∈ ws, IsForeign w c)
    (ht : t ∈ phrase ws) : c ∉ t := by
  induction ws generalizing t with
  | nil =>
    obtain rfl : t = [] := ht
    exact List.not_mem_nil
  | cons w ws ih =>
    have hw := hws w List.mem_cons_self
    cases ws with
    | nil => exact not_mem_of_mem_anyCase hw ht
    | cons v vs =>
      obtain ⟨x, hx, _, ⟨gap, hgap, y, hy, rfl⟩, rfl⟩ := ht
      have hy := ih (fun v hv => hws v (List.mem_cons_of_mem w hv)) hy
      have hgap : c ∉ gap := fun hmem => by simp [hgap.2 c hmem] at hc
      simp [not_mem_of_mem_anyCase hw hx, hgap, hy]

/-- Such a character keeps apart what stands on its two sides. -/
theorem Occurs.of_append_cons (hc : isBlank c = false) (hws : ∀ w ∈ ws, IsForeign w c)
    (h : Occurs (phrase ws) (a ++ c :: b)) : Occurs (phrase ws) a ∨ Occurs (phrase ws) b := by
  obtain ⟨t, ht, hinfix⟩ := h
  rcases infix_append_cons (not_mem_of_mem_phrase hc hws ht) hinfix with hinfix | hinfix
  · exact .inl ⟨t, ht, hinfix⟩
  · exact .inr ⟨t, ht, hinfix⟩

theorem isFirm_phrase_of_ne_nil (hne : ws ≠ []) (hws : ∀ w ∈ ws, IsSolidWord w) :
    IsFirm (phrase ws) := by
  obtain ⟨w, vs, rfl⟩ := List.exists_cons_of_ne_nil hne
  exact isFirm_phrase (hws w List.mem_cons_self).isSolid

theorem not_occurs_phrase_nil (hne : ws ≠ []) (hws : ∀ w ∈ ws, IsSolidWord w) :
    ¬ Occurs (phrase ws) [] := by
  rintro ⟨t, ht, hinfix⟩
  exact (isFirm_phrase_of_ne_nil hne hws t ht).1 (List.infix_nil.1 hinfix)

/-- What is made of such characters has no phrase in it. -/
theorem not_occurs_of_foreign (hne : ws ≠ []) (hws : ∀ w ∈ ws, IsSolidWord w)
    (hs : ∀ c ∈ s, isBlank c = false ∧ ∀ w ∈ ws, IsForeign w c) : ¬ Occurs (phrase ws) s := by
  induction s with
  | nil => exact not_occurs_phrase_nil hne hws
  | cons c s ih =>
    rw [List.forall_mem_cons] at hs
    intro h
    rcases Occurs.of_append_cons (a := []) hs.1.1 hs.1.2 h with h | h
    · exact not_occurs_phrase_nil hne hws h
    · exact ih hs.2 h

/-! ### From one word into the next -/

theorem noBridge_singleton : NoBridge [w] t u := by
  intro v w' h
  have hle := h.length_le
  simp at hle

theorem noBridge_pair_iff : NoBridge [v, w] t u ↔
    dropWord? v.reverse t.reverse = none ∨ dropWord? w u = none := by
  have hends : dropWord? v.reverse t.reverse = none ↔ ∀ x ∈ anyCase v, ¬ x <:+ t := by
    rw [(recognises_dropWord _).eq_none_iff, ← anyCase_reverse]
    constructor
    · intro h x hx hxt
      exact h x.reverse (Language.reverse_mem_reverse.2 hx) (List.reverse_prefix.2 hxt)
    · intro h x hx hxt
      exact h x.reverse hx (List.reverse_prefix.1 (by rwa [List.reverse_reverse]))
  rw [hends, (recognises_dropWord _).eq_none_iff]
  constructor
  · intro h
    exact h v w List.infix_rfl
  · intro h v' w' hpair
    cases hpair.eq_of_length rfl
    exact h

theorem NoBridge.of_front (h : ∀ w ∈ ws.tail, dropWord? w u = none) : NoBridge ws t u := by
  rintro v w ⟨vs, vs', rfl⟩
  have hw : w ∈ (vs ++ [v, w] ++ vs').tail := by
    cases vs <;> simp
  exact .inr ((recognises_dropWord w).eq_none_iff.1 (h w hw))

theorem prefix_of_not_mem (hc : c ∉ t) (h : t <+: a ++ c :: b) : t <+: a := by
  rcases List.prefix_or_prefix_of_prefix h (List.prefix_append a _) with hle | ⟨q, rfl⟩
  · exact hle
  · rw [List.prefix_append_right_inj] at h
    rcases List.prefix_cons_iff.1 h with rfl | ⟨q, rfl, -⟩
    · rw [List.append_nil]
    · exact absurd (List.mem_append_right a List.mem_cons_self) hc

theorem IsBare.of_append (h : IsBare (a ++ b)) : IsBare a := by
  intro c hc
  exact h c (by rw [List.head?_append]; simp [Option.mem_def.1 hc])

theorem IsBare.append (h : IsBare a) (hne : a ≠ []) (b : Text) : IsBare (a ++ b) := by
  intro c hc
  rw [List.head?_append_of_ne_nil _ hne] at hc
  exact h c hc

theorem exists_prefix_of_mem_phrase (ht : t ∈ phrase (w :: ws)) : ∃ x ∈ anyCase w, x <+: t := by
  cases ws with
  | nil => exact ⟨t, ht, List.prefix_rfl⟩
  | cons v vs =>
    obtain ⟨x, hx, y, -, rfl⟩ := ht
    exact ⟨x, hx, List.prefix_append x y⟩

theorem eq_nil_of_blanks (h : IsBare a.reverse) (ha : a ∈ blanks) : a = [] := by
  rcases List.eq_nil_or_concat a with rfl | ⟨r, c, rfl⟩
  · rfl
  · have hbare := h c (by simp)
    rw [ha c (by simp)] at hbare
    cases hbare

/-- A phrase that begins in front of a gap and does not bridge it ends in front of it too. -/
theorem prefix_of_noBridge (hws : ∀ w ∈ ws, IsSolidWord w) (hg : g ∈ someBlanks)
    (hb : IsBare b) (hu : IsBare u.reverse) (hbridge : NoBridge ws u b) (ht : t ∈ phrase ws)
    (hbegins : t <+: u ++ (g ++ b)) : t <+: u := by
  obtain ⟨c, gap', rfl⟩ := List.exists_cons_of_ne_nil hg.1
  have hc : isBlank c = true := hg.2 c List.mem_cons_self
  induction ws generalizing t u with
  | nil =>
    obtain rfl : t = [] := ht
    exact List.nil_prefix
  | cons w ws ih =>
    have hword : ∀ x ∈ anyCase w, x <+: u ++ (c :: gap' ++ b) → x <+: u := fun x hx =>
      prefix_of_not_mem (not_mem_of_mem_anyCase ((hws w List.mem_cons_self).isForeign hc) hx)
    cases ws with
    | nil => exact hword t ht hbegins
    | cons v vs =>
      obtain ⟨x, hx, _, ⟨gap, hgap, y, hy, rfl⟩, rfl⟩ := ht
      obtain ⟨r, rfl⟩ := hword x hx ((List.prefix_append x _).trans hbegins)
      obtain ⟨a, ha, hr⟩ := exists_blanks_append r
      rw [List.reverse_append] at hu
      have hr_bare : IsBare r.reverse := hu.of_append
      rw [List.append_assoc, List.prefix_append_right_inj] at hbegins
      obtain ⟨e, he⟩ := hbegins
      rw [List.append_assoc] at he
      have hbare : IsBare (y ++ e) := (isFirm_phrase (hws v (by simp)).isSolid).isBare_append hy e
      have hrest : y ++ e = skipBlanks (r ++ (c :: gap' ++ b)) := by
        rw [← he, skipBlanks_append hgap.2 hbare]
      by_cases hnil : skipBlanks r = []
      · -- The first word ends where the gap begins, so the second one begins behind the gap.
        obtain rfl : r = [] := eq_nil_of_blanks hr_bare (skipBlanks_eq_nil_iff.1 hnil)
        rw [List.nil_append, skipBlanks_append hg.2 hb] at hrest
        obtain ⟨y', hy', hyy'⟩ := exists_prefix_of_mem_phrase hy
        rcases hbridge w v ⟨[], vs, rfl⟩ with h | h
        · exact absurd (by simp) (h x hx)
        · exact absurd (hyy'.trans ⟨e, hrest⟩) (h y' hy')
      · rw [skipBlanks_append_of_ne_nil hnil] at hrest
        obtain rfl : gap = a := by
          rw [← hr, hrest, ← List.append_assoc, ← List.append_assoc] at he
          simpa using he
        have hy_prefix : y <+: skipBlanks r := by
          apply ih (fun w' hw' => hws w' (List.mem_cons_of_mem w hw')) _ _ hy ⟨e, hrest⟩
          · rw [← hr, List.reverse_append] at hr_bare
            exact hr_bare.of_append
          · intro v' w' hpair
            refine (hbridge v' w' (hpair.trans (List.suffix_cons w _).isInfix)).imp_left ?_
            intro h x' hx' hsuffix
            apply h x' hx' (hsuffix.trans _)
            exact (skipBlanks_suffix r).trans (List.suffix_append x r)
        rw [← hr, List.prefix_append_right_inj, List.prefix_append_right_inj]
        exact hy_prefix

/-- A phrase stands on one side of a gap that it does not bridge. -/
theorem Occurs.of_gap (hne : ws ≠ []) (hws : ∀ w ∈ ws, IsSolidWord w) (hg : g ∈ someBlanks)
    (ha : IsBare a.reverse) (hb : IsBare b) (hbridge : NoBridge ws a b)
    (h : Occurs (phrase ws) (a ++ (g ++ b))) : Occurs (phrase ws) a ∨ Occurs (phrase ws) b := by
  obtain ⟨r, hr, t, ht, hbegins⟩ := occurs_iff.1 h
  rcases List.suffix_or_suffix_of_suffix hr (List.suffix_append a (g ++ b)) with hin | ⟨u, rfl⟩
  · right
    rw [← occurs_blanks_append_iff (isFirm_phrase_of_ne_nil hne hws) hg.2]
    exact Occurs.of_suffix ⟨t, ht, hbegins.isInfix⟩ hin
  · left
    have hu : u <:+ a := List.suffix_append_self_iff.1 hr
    have hu_bare : IsBare u.reverse := by
      obtain ⟨x, rfl⟩ := hu
      rw [List.reverse_append] at ha
      exact ha.of_append
    have hu_bridge : NoBridge ws u b := fun v w hpair =>
      (hbridge v w hpair).imp_left fun hx x hmem hsuffix => hx x hmem (hsuffix.trans hu)
    have hin := prefix_of_noBridge hws hg hb hu_bare hu_bridge ht hbegins
    exact Occurs.of_suffix ⟨t, ht, hin.isInfix⟩ hu

/-- A row begins with its first word, and ends there or goes on with blanks. -/
theorem spaced_cons {ts : List Text} (hs : s ∈ spaced (t :: ts)) :
    s = t ∨ ∃ c r, isBlank c = true ∧ s = t ++ c :: r := by
  cases ts with
  | nil => exact .inl hs
  | cons u us =>
    obtain ⟨_, rfl, _, ⟨g, hg, r, -, rfl⟩, rfl⟩ := hs
    obtain ⟨c, gap, rfl⟩ := List.exists_cons_of_ne_nil hg.1
    exact .inr ⟨c, gap ++ r, hg.2 c List.mem_cons_self, rfl⟩

theorem IsWhole.isBare_spaced (ht : IsWhole t) {ts : List Text} (hs : s ∈ spaced (t :: ts)) :
    IsBare s := by
  obtain ⟨c, t, rfl⟩ := List.exists_cons_of_ne_nil ht.ne_nil
  have hc := ht.bare
  rcases spaced_cons hs with rfl | ⟨d, r, -, rfl⟩
  · exact hc
  · exact hc

theorem isBare_reverse_spaced {ts : List Text} (hwhole : ∀ t ∈ ts, IsWhole t)
    (hs : s ∈ spaced ts) : IsBare s.reverse := by
  induction ts generalizing s with
  | nil =>
    obtain rfl : s = [] := hs
    rintro c ⟨⟩
  | cons t ts ih =>
    rw [List.forall_mem_cons] at hwhole
    cases ts with
    | nil =>
      obtain rfl : s = t := hs
      exact hwhole.1.bare_reverse
    | cons u us =>
      obtain ⟨_, rfl, _, ⟨g, -, r, hr, rfl⟩, rfl⟩ := hs
      have hne : r.reverse ≠ [] := by
        have hu : IsWhole u := hwhole.2 u List.mem_cons_self
        rcases spaced_cons hr with rfl | ⟨c, r, -, rfl⟩ <;> simp [hu.ne_nil]
      intro c hc
      rw [List.reverse_append, List.reverse_append, List.append_assoc,
        List.head?_append_of_ne_nil _ hne] at hc
      exact ih hwhole.2 hr c hc

/-- Words in a row are a phrase of these words. -/
theorem mem_phrase_of_spaced {ts : List Text} (hs : s ∈ spaced ts) : s ∈ phrase ts := by
  induction ts generalizing s with
  | nil => exact hs
  | cons t ts ih =>
    cases ts with
    | nil =>
      obtain rfl : s = t := hs
      exact mem_anyCase_self s
    | cons u us =>
      obtain ⟨_, rfl, _, ⟨g, hg, r, hr, rfl⟩, rfl⟩ := hs
      exact ⟨_, mem_anyCase_self _, _, ⟨g, hg, r, ih hr, rfl⟩, rfl⟩

/-- Two rows one behind the other are one row. -/
theorem append_mem_spaced {ts us : List Text} (hts : ts ≠ []) (hus : us ≠ [])
    (ha : a ∈ spaced ts * someBlanks) (hb : b ∈ spaced us) : a ++ b ∈ spaced (ts ++ us) := by
  obtain ⟨r, hr, g, hg, rfl⟩ := ha
  obtain ⟨u, us, rfl⟩ := List.exists_cons_of_ne_nil hus
  induction ts generalizing r with
  | nil => exact absurd rfl hts
  | cons t ts ih =>
    cases ts with
    | nil => exact ⟨r, hr, _, ⟨g, hg, b, hb, rfl⟩, (List.append_assoc r g b).symm⟩
    | cons t' ts =>
      obtain ⟨_, rfl, _, ⟨g', hg', r, hr, rfl⟩, rfl⟩ := hr
      exact ⟨_, rfl, _, ⟨g', hg', _, ih (List.cons_ne_nil _ _) r hr, rfl⟩, by simp⟩

theorem NoBridge.spaced {ts : List Text} (hws : ∀ w ∈ ws, IsSolidWord w)
    (h : NoBridge ws t u) (hs : s ∈ spaced (u :: ts)) : NoBridge ws t s := by
  intro v w hpair
  refine (h v w hpair).imp_right fun hu y hy hbegins => ?_
  rcases spaced_cons hs with rfl | ⟨c, r, hc, rfl⟩
  · exact hu y hy hbegins
  · have hw : IsSolidWord w := hws w (hpair.subset (by simp))
    exact hu y hy (prefix_of_not_mem (not_mem_of_mem_anyCase (hw.isForeign hc) hy) hbegins)

/-- A phrase that stands in none of the words in a row, and bridges no gap between two of them,
does not stand in the row. -/
theorem not_occurs_of_spaced {ts : List Text} (hne : ws ≠ []) (hws : ∀ w ∈ ws, IsSolidWord w)
    (hwhole : ∀ t ∈ ts, IsWhole t) (hnone : ∀ t ∈ ts, ¬ Occurs (phrase ws) t)
    (hbridge : ts.IsChain (NoBridge ws)) (hs : s ∈ spaced ts) : ¬ Occurs (phrase ws) s := by
  induction ts generalizing s with
  | nil =>
    obtain rfl : s = [] := hs
    exact not_occurs_phrase_nil hne hws
  | cons t ts ih =>
    cases ts with
    | nil =>
      obtain rfl : s = t := hs
      exact hnone s List.mem_cons_self
    | cons u us =>
      obtain ⟨_, rfl, _, ⟨g, hg, r, hr, rfl⟩, rfl⟩ := hs
      rw [List.isChain_cons_cons] at hbridge
      rw [List.forall_mem_cons] at hwhole hnone
      have hrest := ih hwhole.2 hnone.2 hbridge.2 hr
      have hu : IsWhole u := hwhole.2 u List.mem_cons_self
      intro hoccurs
      rcases hoccurs.of_gap hne hws hg hwhole.1.bare_reverse (hu.isBare_spaced hr)
        (hbridge.1.spaced hws hr) with h | h
      · exact hnone.1 h
      · exact hrest h

end

end PinGate.Text
