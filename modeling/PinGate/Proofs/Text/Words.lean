-- Words and phrases as languages. A reader that recognises a language takes a text of it off the
-- start of a text, whenever one stands there, and there is never a choice; a search finds a
-- language wherever a text of it stands.
import Mathlib.Computability.Language
import Mathlib.Data.List.TakeWhile
import PinGate.Text.Keyword

namespace PinGate.Text

/-- Of all characters only those of a text are gone through. -/
instance (p : Char → Prop) [DecidablePred p] (s : Text) : Decidable (∀ c ∈ s, p c) :=
  List.decidableBAll p s

/-! ## The languages -/

/-- A word in any case. -/
def anyCase (w : Text) : Language Char := {t | List.Forall₂ (fun k c => isFormOf k c = true) w t}

/-- One text alone. -/
def verbatim (p : Text) : Language Char := {p}

def blanks : Language Char := {t | ∀ c ∈ t, isBlank c = true}

def someBlanks : Language Char := {t | t ≠ [] ∧ t ∈ blanks}

/-- Words with blanks between each two. -/
def phrase : List Text → Language Char
  | [] => 1
  | [w] => anyCase w
  | w :: ws => anyCase w * (someBlanks * phrase ws)

/-- Whether a text of the language stands anywhere in a text. -/
def Occurs (l : Language Char) (s : Text) : Prop := ∃ t ∈ l, t <:+: s

/-- Whether a text of the language starts anywhere in the first line of a text. -/
def OccursInLine (l : Language Char) (s : Text) : Prop :=
  ∃ a t b, a ++ (t ++ b) = s ∧ '\n' ∉ a ∧ t ∈ l

/-- What stands before and behind the first text of a language. -/
structure IsFirst (l : Language Char) (s before after : Text) : Prop where
  stands : ∃ t ∈ l, before ++ (t ++ after) = s
  first : ∀ a t b, t ∈ l → a ++ (t ++ b) = s → before.length ≤ a.length

/-! ## Readers -/

/-- Whether a reader takes the texts of a language off the start of a text. -/
def Recognises (read? : Text → Option Text) (l : Language Char) : Prop :=
  ∀ s r, read? s = some r ↔ ∃ t ∈ l, t ++ r = s

variable {read? next? : Text → Option Text} {l m : Language Char} {s r w : Text}

theorem Recognises.eq_none_iff (h : Recognises read? l) :
    read? s = none ↔ ∀ t ∈ l, ¬ t <+: s := by
  rw [Option.eq_none_iff_forall_ne_some]
  constructor
  · rintro hnone t ht ⟨r, hr⟩
    exact hnone r ((h s r).2 ⟨t, ht, hr⟩)
  · intro hnone r hr
    obtain ⟨t, ht, hs⟩ := (h s r).1 hr
    exact hnone t ht ⟨r, hs⟩

theorem mem_anyCase_cons {k : Char} {ks t : Text} :
    t ∈ anyCase (k :: ks) ↔ ∃ c cs, isFormOf k c = true ∧ cs ∈ anyCase ks ∧ c :: cs = t := by
  unfold anyCase
  constructor
  · rintro ⟨⟩
    exact ⟨_, _, ‹_›, ‹_›, rfl⟩
  · rintro ⟨c, cs, hc, hcs, rfl⟩
    exact .cons hc hcs

theorem length_of_mem_anyCase {t : Text} (h : t ∈ anyCase w) : t.length = w.length :=
  (List.Forall₂.length_eq h).symm

/-- A word is in the case in which it is written. -/
theorem mem_anyCase_self (w : Text) : w ∈ anyCase w := by
  change List.Forall₂ _ w w
  rw [List.forall₂_same]
  intro k _
  simp [isFormOf]

theorem recognises_dropWord (w : Text) : Recognises (dropWord? w) (anyCase w) := by
  intro s r
  induction w generalizing s with
  | nil =>
    constructor
    · intro h
      exact ⟨[], .nil, (Option.some.inj h).symm⟩
    · rintro ⟨t, ⟨⟩, rfl⟩
      rfl
  | cons k ks ih =>
    simp only [mem_anyCase_cons]
    cases s with
    | nil =>
      simp only [dropWord?, reduceCtorEq, false_iff]
      rintro ⟨t, ⟨c, cs, -, -, rfl⟩, h⟩
      cases h
    | cons c s =>
      unfold dropWord?
      by_cases hc : isFormOf k c = true
      · rw [if_pos hc, ih]
        constructor
        · rintro ⟨t, ht, rfl⟩
          exact ⟨c :: t, ⟨c, t, hc, ht, rfl⟩, rfl⟩
        · rintro ⟨t, ⟨c', cs, -, hcs, rfl⟩, h⟩
          cases h
          exact ⟨cs, hcs, rfl⟩
      · rw [if_neg hc]
        simp only [reduceCtorEq, false_iff]
        rintro ⟨t, ⟨c', cs, hc', -, rfl⟩, h⟩
        cases h
        exact hc hc'

theorem recognises_dropPrefix (p : Text) : Recognises (dropPrefix? p) (verbatim p) := by
  intro s r
  rw [dropPrefix?_eq_some_iff]
  constructor
  · rintro rfl
    exact ⟨p, rfl, rfl⟩
  · rintro ⟨t, rfl, rfl⟩
    rfl

/-- Readers one after the other. -/
theorem Recognises.bind (hread : Recognises read? l) (hnext : Recognises next? m) :
    Recognises (fun s => (read? s).bind next?) (l * m) := by
  intro s r
  simp only [Option.bind_eq_some_iff, Language.mem_mul]
  constructor
  · rintro ⟨s', hs', hr⟩
    obtain ⟨a, ha, rfl⟩ := (hread _ _).1 hs'
    obtain ⟨b, hb, rfl⟩ := (hnext _ _).1 hr
    exact ⟨a ++ b, ⟨a, ha, b, hb, rfl⟩, List.append_assoc a b r⟩
  · rintro ⟨_, ⟨a, ha, b, hb, rfl⟩, rfl⟩
    exact ⟨b ++ r, (hread _ _).2 ⟨a, ha, (List.append_assoc a b r).symm⟩,
      (hnext _ _).2 ⟨b, hb, rfl⟩⟩

/-! ## Blanks -/

/-- Whether no blank starts a text. -/
def IsBare (s : Text) : Prop := ∀ c ∈ s.head?, isBlank c = false

/-- Whether all texts of a language start with something, and not with a blank. -/
def IsFirm (l : Language Char) : Prop := ∀ t ∈ l, t ≠ [] ∧ IsBare t

theorem IsFirm.isBare_append (hl : IsFirm l) {t : Text} (ht : t ∈ l) (r : Text) :
    IsBare (t ++ r) := by
  obtain ⟨hne, hbare⟩ := hl t ht
  cases t with
  | nil => exact absurd rfl hne
  | cons c cs => exact hbare

theorem IsFirm.mul (hl : IsFirm l) (m : Language Char) : IsFirm (l * m) := by
  rintro _ ⟨a, ha, b, -, rfl⟩
  refine ⟨?_, hl.isBare_append ha b⟩
  intro hnil
  exact (hl a ha).1 (List.append_eq_nil_iff.1 hnil).1

theorem isFirm_verbatim {c : Char} (h : isBlank c = false) (p : Text) :
    IsFirm (verbatim (c :: p)) := by
  rintro t rfl
  refine ⟨List.cons_ne_nil c p, ?_⟩
  rintro d ⟨⟩
  exact h

/-- Whether a word starts with a letter or sign that is not blank, nor in lower case. -/
def isSolid : Text → Bool
  | [] => false
  | k :: _ => !isBlank k && !isBlank k.toLower

theorem isBlank_of_isFormOf {k c : Char} (hk : isBlank k = false)
    (hlower : isBlank k.toLower = false) (h : isFormOf k c = true) : isBlank c = false := by
  simp only [isFormOf, Bool.or_eq_true, Bool.and_eq_true, beq_iff_eq] at h
  rcases h with ((rfl | rfl) | ⟨-, rfl | rfl⟩) | ⟨-, rfl⟩
  · exact hk
  · exact hlower
  all_goals decide

theorem isFirm_anyCase (h : isSolid w = true) : IsFirm (anyCase w) := by
  cases w with
  | nil => cases h
  | cons k ks =>
    simp only [isSolid, Bool.and_eq_true, Bool.not_eq_true'] at h
    intro t ht
    obtain ⟨c, cs, hc, -, rfl⟩ := mem_anyCase_cons.1 ht
    refine ⟨List.cons_ne_nil c cs, ?_⟩
    rintro c' ⟨⟩
    exact isBlank_of_isFormOf h.1 h.2 hc

theorem skipBlanks_of_isBare (h : IsBare s) : skipBlanks s = s := by
  unfold skipBlanks
  cases s with
  | nil => rfl
  | cons c cs => rw [List.dropWhile_cons_of_neg (by simp [h c rfl])]

theorem skipBlanks_append {a : Text} (ha : a ∈ blanks) (h : IsBare r) :
    skipBlanks (a ++ r) = r := by
  unfold skipBlanks
  rw [List.dropWhile_append_of_pos ha]
  exact skipBlanks_of_isBare h

theorem isBare_skipBlanks (s : Text) : IsBare (skipBlanks s) := by
  intro c hc
  unfold skipBlanks at hc
  rw [← List.find?_not_eq_head?_dropWhile] at hc
  simpa using List.find?_some hc

theorem exists_blanks_append (s : Text) : ∃ a ∈ blanks, a ++ skipBlanks s = s :=
  ⟨s.takeWhile isBlank, fun _ => List.mem_takeWhile_imp, List.takeWhile_append_dropWhile⟩

/-- What stands behind a prefix is blank when the prefix and some blanks are the whole text. -/
theorem eq_append_blanks_iff {p : Text} : (∃ gap ∈ blanks, s = p ++ gap) ↔
    ∃ gap ∈ dropPrefix? p s, ∀ c ∈ gap, isBlank c = true := by
  simp only [Option.mem_def, dropPrefix?_eq_some_iff]
  constructor
  · rintro ⟨gap, hgap, hs⟩
    exact ⟨gap, hs, hgap⟩
  · rintro ⟨gap, hs, hgap⟩
    exact ⟨gap, hgap, hs⟩

theorem mem_someBlanks_cons {c : Char} {t : Text} :
    c :: t ∈ someBlanks ↔ isBlank c = true ∧ t ∈ blanks := by
  constructor
  · rintro ⟨-, h⟩
    exact ⟨h c (by simp), fun d hd => h d (by simp [hd])⟩
  · rintro ⟨hc, ht⟩
    exact ⟨List.cons_ne_nil c t, List.forall_mem_cons.2 ⟨hc, ht⟩⟩

theorem singleton_mem_someBlanks {c : Char} (hc : isBlank c = true) : [c] ∈ someBlanks := by
  rw [mem_someBlanks_cons]
  exact ⟨hc, fun _ hd => absurd hd List.not_mem_nil⟩

theorem skipSomeBlanks?_eq_some_iff :
    skipSomeBlanks? s = some r ↔ IsBare r ∧ ∃ t ∈ someBlanks, t ++ r = s := by
  constructor
  · intro h
    cases s with
    | nil => cases h
    | cons c s =>
      by_cases hc : isBlank c = true
      · rw [skipSomeBlanks?, if_pos hc] at h
        cases h
        obtain ⟨a, ha, hs⟩ := exists_blanks_append s
        exact ⟨isBare_skipBlanks s, c :: a, mem_someBlanks_cons.2 ⟨hc, ha⟩,
          congrArg (c :: ·) hs⟩
      · rw [skipSomeBlanks?, if_neg hc] at h
        cases h
  · rintro ⟨hbare, t, ht, rfl⟩
    cases t with
    | nil => exact absurd rfl ht.1
    | cons c t =>
      obtain ⟨hc, ht⟩ := mem_someBlanks_cons.1 ht
      rw [List.cons_append, skipSomeBlanks?, if_pos hc, skipBlanks_append ht hbare]

/-- Blanks in front of what starts with none. -/
theorem Recognises.behind_blanks (hread : Recognises read? l) (hl : IsFirm l) :
    Recognises (fun s => read? (skipBlanks s)) (blanks * l) := by
  intro s r
  simp only [Language.mem_mul]
  constructor
  · intro h
    obtain ⟨a, ha, hs⟩ := exists_blanks_append s
    obtain ⟨t, ht, htr⟩ := (hread _ _).1 h
    exact ⟨a ++ t, ⟨a, ha, t, ht, rfl⟩, by rw [List.append_assoc, htr, hs]⟩
  · -- Were a blank left to the language, fewer blanks in front could do as well.
    rintro ⟨_, ⟨a, ha, t, ht, rfl⟩, rfl⟩
    rw [List.append_assoc, skipBlanks_append ha (hl.isBare_append ht r)]
    exact (hread _ _).2 ⟨t, ht, rfl⟩

theorem Recognises.behind_someBlanks (hread : Recognises read? l) (hl : IsFirm l) :
    Recognises (fun s => (skipSomeBlanks? s).bind read?) (someBlanks * l) := by
  intro s r
  simp only [Option.bind_eq_some_iff, skipSomeBlanks?_eq_some_iff, Language.mem_mul]
  constructor
  · rintro ⟨s', ⟨-, a, ha, rfl⟩, h⟩
    obtain ⟨t, ht, rfl⟩ := (hread _ _).1 h
    exact ⟨a ++ t, ⟨a, ha, t, ht, rfl⟩, List.append_assoc a t r⟩
  · rintro ⟨_, ⟨a, ha, t, ht, rfl⟩, rfl⟩
    exact ⟨t ++ r, ⟨hl.isBare_append ht r, a, ha, (List.append_assoc a t r).symm⟩,
      (hread _ _).2 ⟨t, ht, rfl⟩⟩

/-! ## Phrases -/

theorem isFirm_phrase {ws : List Text} (h : isSolid w = true) : IsFirm (phrase (w :: ws)) := by
  cases ws with
  | nil => exact isFirm_anyCase h
  | cons v vs => exact (isFirm_anyCase h).mul _

theorem recognises_dropPhrase {ws : List Text} (h : ∀ w ∈ ws, isSolid w = true) :
    Recognises (dropPhrase? ws) (phrase ws) := by
  induction ws with
  | nil =>
    intro s r
    simp [dropPhrase?, phrase, eq_comm]
  | cons w ws ih =>
    cases ws with
    | nil => exact recognises_dropWord w
    | cons v vs =>
      have hfirm : IsFirm (phrase (v :: vs)) := isFirm_phrase (h v (by simp))
      have hvs := ih fun v' hv' => h v' (List.mem_cons_of_mem w hv')
      exact (recognises_dropWord w).bind (hvs.behind_someBlanks hfirm)

/-- The texts that are one of some phrases. -/
def anyPhrase (phrases : List (List Text)) : Language Char := {t | ∃ p ∈ phrases, t ∈ phrase p}

theorem mem_anyPhrase {phrases : List (List Text)} {t : Text} :
    t ∈ anyPhrase phrases ↔ ∃ p ∈ phrases, t ∈ phrase p := Iff.rfl

theorem anyPhrase_singleton (p : List Text) : anyPhrase [p] = phrase p := by
  ext t
  simp [mem_anyPhrase]

theorem anyPhrase_cons (p : List Text) (ps : List (List Text)) :
    anyPhrase (p :: ps) = phrase p + anyPhrase ps := by
  ext t
  simp [mem_anyPhrase, Language.mem_add]

theorem beginsPhrase_iff {phrases : List (List Text)}
    (h : ∀ p ∈ phrases, ∀ w ∈ p, isSolid w = true) :
    beginsPhrase phrases s = true ↔ ∃ t ∈ anyPhrase phrases, t <+: s := by
  unfold beginsPhrase
  simp only [List.any_eq_true, Option.isSome_iff_exists]
  constructor
  · rintro ⟨p, hp, r, hr⟩
    obtain ⟨t, ht, rfl⟩ := (recognises_dropPhrase (h p hp) _ _).1 hr
    exact ⟨t, ⟨p, hp, ht⟩, List.prefix_append t r⟩
  · rintro ⟨t, ⟨p, hp, ht⟩, r, rfl⟩
    exact ⟨p, hp, r, (recognises_dropPhrase (h p hp) _ _).2 ⟨t, ht, rfl⟩⟩

/-! ## Searches -/

theorem somewhere_iff {test : Text → Bool} :
    somewhere test s = true ↔ ∃ r, r <:+ s ∧ test r = true := by
  induction s with
  | nil => simp [somewhere]
  | cons c cs ih =>
    simp only [somewhere, Bool.or_eq_true, ih, List.suffix_cons_iff]
    constructor
    · rintro (h | ⟨r, hr, h⟩)
      · exact ⟨_, .inl rfl, h⟩
      · exact ⟨r, .inr hr, h⟩
    · rintro ⟨r, rfl | hr, h⟩
      · exact .inl h
      · exact .inr ⟨r, hr, h⟩

theorem somewhereInLine_iff {test : Text → Bool} :
    somewhereInLine test s = true ↔ ∃ a r, a ++ r = s ∧ '\n' ∉ a ∧ test r = true := by
  induction s with
  | nil => simp [somewhereInLine]
  | cons c cs ih =>
    simp only [somewhereInLine, Bool.or_eq_true, Bool.and_eq_true, bne_iff_ne, ih]
    constructor
    · rintro (h | ⟨hc, a, r, rfl, ha, h⟩)
      · exact ⟨[], c :: cs, rfl, by simp, h⟩
      · exact ⟨c :: a, r, rfl, by simp [ha, hc.symm], h⟩
    · rintro ⟨a, r, hs, ha, h⟩
      cases a with
      | nil =>
        obtain rfl : r = c :: cs := hs
        exact .inl h
      | cons d a =>
        rw [List.cons_append] at hs
        obtain ⟨rfl, rfl⟩ := List.cons.inj hs
        simp only [List.mem_cons, not_or] at ha
        exact .inr ⟨Ne.symm ha.1, a, r, rfl, ha.2, h⟩

theorem occurs_iff : Occurs l s ↔ ∃ r, r <:+ s ∧ ∃ t ∈ l, t <+: r := by
  unfold Occurs
  constructor
  · rintro ⟨t, ht, a, b, rfl⟩
    exact ⟨t ++ b, ⟨a, by simp⟩, t, ht, List.prefix_append t b⟩
  · rintro ⟨r, hr, t, ht, htr⟩
    exact ⟨t, ht, htr.isInfix.trans hr.isInfix⟩

theorem Occurs.of_suffix {u : Text} (h : Occurs l u) (hu : u <:+ s) : Occurs l s := by
  obtain ⟨t, ht, htu⟩ := h
  exact ⟨t, ht, htu.trans hu.isInfix⟩

theorem Occurs.of_mul_left (h : Occurs (l * m) s) : Occurs l s := by
  obtain ⟨_, ⟨a, ha, b, -, rfl⟩, hinfix⟩ := h
  exact ⟨a, ha, (List.prefix_append a b).isInfix.trans hinfix⟩

theorem OccursInLine.occurs (h : OccursInLine l s) : Occurs l s := by
  obtain ⟨a, t, b, rfl, -, ht⟩ := h
  exact ⟨t, ht, a, b, List.append_assoc a t b⟩

theorem occursInLine_iff_occurs (h : '\n' ∉ s) : OccursInLine l s ↔ Occurs l s := by
  constructor
  · exact OccursInLine.occurs
  · rintro ⟨t, ht, a, b, rfl⟩
    refine ⟨a, t, b, (List.append_assoc a t b).symm, ?_, ht⟩
    simp only [List.mem_append, not_or] at h
    exact h.1.1

theorem occursInLine_add_iff :
    OccursInLine (l + m) s ↔ OccursInLine l s ∨ OccursInLine m s := by
  unfold OccursInLine
  simp only [Language.mem_add, and_or_left, exists_or]

/-- A search for the texts that a reader takes. -/
theorem Recognises.somewhere_iff (hread : Recognises read? l) :
    somewhere (fun s => (read? s).isSome) s = true ↔ Occurs l s := by
  simp only [Text.somewhere_iff, occurs_iff, Option.isSome_iff_exists, hread _ _]
  constructor
  · rintro ⟨u, hu, b, t, ht, hb⟩
    exact ⟨u, hu, t, ht, b, hb⟩
  · rintro ⟨u, hu, t, ht, b, hb⟩
    exact ⟨u, hu, b, t, ht, hb⟩

theorem somewhere_beginsPhrase_iff {phrases : List (List Text)}
    (h : ∀ p ∈ phrases, ∀ w ∈ p, isSolid w = true) :
    somewhere (beginsPhrase phrases) s = true ↔ Occurs (anyPhrase phrases) s := by
  simp only [somewhere_iff, occurs_iff, beginsPhrase_iff h]

theorem somewhereInLine_beginsPhrase_iff {phrases : List (List Text)}
    (h : ∀ p ∈ phrases, ∀ w ∈ p, isSolid w = true) :
    somewhereInLine (beginsPhrase phrases) s = true ↔ OccursInLine (anyPhrase phrases) s := by
  simp only [somewhereInLine_iff, beginsPhrase_iff h]
  unfold OccursInLine
  constructor
  · rintro ⟨a, r, rfl, ha, t, ht, b, rfl⟩
    exact ⟨a, t, b, rfl, ha, ht⟩
  · rintro ⟨a, t, b, rfl, ha, ht⟩
    exact ⟨a, t ++ b, rfl, ha, t, ht, b, rfl⟩

/-! ## Cuts -/

theorem cutAt?_of_some (h : dropWord? w s = some r) : cutAt? w s = some ([], r) := by
  cases s with
  | nil => rw [cutAt?, h, Option.map_some]
  | cons c cs => rw [cutAt?, h]

theorem cutAt?_nil_of_none (h : dropWord? w [] = none) : cutAt? w [] = none := by
  rw [cutAt?, h, Option.map_none]

theorem cutAt?_cons_of_none {c : Char} {cs : Text} (h : dropWord? w (c :: cs) = none) :
    cutAt? w (c :: cs) = (cutAt? w cs).map fun p => (c :: p.1, p.2) := by
  rw [cutAt?, h]

theorem isFirst_nil_iff {after : Text} : IsFirst l s [] after ↔ ∃ t ∈ l, t ++ after = s := by
  constructor
  · intro h
    exact h.stands
  · intro h
    exact ⟨h, fun _ _ _ _ _ => Nat.zero_le _⟩

theorem isFirst_cons_iff {before after : Text} {c d : Char} {cs : Text} :
    IsFirst l (c :: cs) (d :: before) after ↔
      d = c ∧ IsFirst l cs before after ∧ ∀ t ∈ l, ¬ t <+: c :: cs := by
  constructor
  · rintro ⟨⟨t, ht, hs⟩, hfirst⟩
    obtain ⟨rfl, hcs⟩ := List.cons.inj hs
    refine ⟨rfl, ⟨⟨t, ht, hcs⟩, ?_⟩, ?_⟩
    · intro a t' b ht' ha
      have := hfirst (d :: a) t' b ht' (by rw [List.cons_append, ha])
      simpa using this
    · rintro t' ht' ⟨b, hb⟩
      have := hfirst [] t' b ht' hb
      simp at this
  · rintro ⟨rfl, ⟨⟨t, ht, rfl⟩, hfirst⟩, hnone⟩
    refine ⟨⟨t, ht, rfl⟩, ?_⟩
    intro a t' b ht' ha
    cases a with
    | nil => exact absurd ⟨b, ha⟩ (hnone t' ht')
    | cons e a =>
      have := hfirst a t' b ht' (List.cons.inj ha).2
      simpa using this

theorem IsFirst.before_eq_nil {before after t : Text} (h : IsFirst l s before after) (ht : t ∈ l)
    (hs : t <+: s) : before = [] := by
  obtain ⟨b, hb⟩ := hs
  exact List.eq_nil_of_length_eq_zero (Nat.le_zero.1 (h.first [] t b ht hb))

/-- Where a language occurs, there is a first place. -/
theorem exists_isFirst (h : Occurs l s) : ∃ before after, IsFirst l s before after := by
  induction s with
  | nil =>
    obtain ⟨t, ht, hs⟩ := h
    obtain rfl := List.infix_nil.1 hs
    exact ⟨[], [], isFirst_nil_iff.2 ⟨[], ht, rfl⟩⟩
  | cons c cs ih =>
    by_cases hbegin : ∃ t ∈ l, t <+: c :: cs
    · obtain ⟨t, ht, r, hr⟩ := hbegin
      exact ⟨[], r, isFirst_nil_iff.2 ⟨t, ht, hr⟩⟩
    · push Not at hbegin
      obtain ⟨t, ht, hs⟩ := h
      rcases List.infix_cons_iff.1 hs with hs | hs
      · exact absurd hs (hbegin t ht)
      · obtain ⟨before, after, hfirst⟩ := ih ⟨t, ht, hs⟩
        exact ⟨c :: before, after, isFirst_cons_iff.2 ⟨rfl, hfirst, hbegin⟩⟩

/-- What stands behind any place of a word stands behind its first place: in all cases a word has
the same length. -/
theorem IsFirst.suffix_after {before after a t b : Text} (h : IsFirst (anyCase w) s before after)
    (ht : t ∈ anyCase w) (hs : a ++ (t ++ b) = s) : b <:+ after := by
  obtain ⟨⟨t', ht', hs'⟩, hfirst⟩ := h
  have hle : before.length ≤ a.length := hfirst a t b ht hs
  have hlen := congrArg List.length (hs.trans hs'.symm)
  simp only [List.length_append, length_of_mem_anyCase ht, length_of_mem_anyCase ht'] at hlen
  have hb : b <:+ s := ⟨a ++ t, by simp [hs]⟩
  have hafter : after <:+ s := ⟨before ++ t', by simp [hs']⟩
  exact List.suffix_of_suffix_length_le hb hafter (by omega)

theorem cutAt?_eq_some_iff_of_some {before after : Text} (h : dropWord? w s = some r) :
    cutAt? w s = some (before, after) ↔ IsFirst (anyCase w) s before after := by
  obtain ⟨t, ht, hs⟩ := (recognises_dropWord w s r).1 h
  rw [cutAt?_of_some h]
  constructor
  · intro hcut
    cases hcut
    exact isFirst_nil_iff.2 ⟨t, ht, hs⟩
  · intro hfirst
    obtain rfl := hfirst.before_eq_nil ht ⟨r, hs⟩
    rw [isFirst_nil_iff, ← recognises_dropWord w s after, h] at hfirst
    rw [Option.some.inj hfirst]

/-- A cut is made at the first place where the word stands. -/
theorem cutAt?_eq_some_iff (before after : Text) :
    cutAt? w s = some (before, after) ↔ IsFirst (anyCase w) s before after := by
  have hword := recognises_dropWord w
  -- The search tries each place in turn, so the first one is here or first in what follows.
  induction s generalizing before with
  | nil =>
    cases hdrop : dropWord? w [] with
    | some r => exact cutAt?_eq_some_iff_of_some hdrop
    | none =>
      rw [cutAt?_nil_of_none hdrop]
      simp only [reduceCtorEq, false_iff]
      rintro ⟨⟨t, ht, hs⟩, -⟩
      obtain ⟨-, htb⟩ := List.append_eq_nil_iff.1 hs
      exact hword.eq_none_iff.1 hdrop t ht ⟨after, htb⟩
  | cons c cs ih =>
    cases hdrop : dropWord? w (c :: cs) with
    | some r => exact cutAt?_eq_some_iff_of_some hdrop
    | none =>
      have hnone := hword.eq_none_iff.1 hdrop
      rw [cutAt?_cons_of_none hdrop]
      cases before with
      | nil =>
        rw [isFirst_nil_iff, ← hword, hdrop]
        simp
      | cons d before =>
        have hcs : cutAt? w cs = some (before, after) ↔ IsFirst (anyCase w) cs before after :=
          ih before
        rw [isFirst_cons_iff, ← hcs, Option.map_eq_some_iff]
        constructor
        · rintro ⟨⟨before', r⟩, hcut, hp⟩
          cases hp
          exact ⟨rfl, hcut, hnone⟩
        · rintro ⟨rfl, hcut, -⟩
          exact ⟨_, hcut, rfl⟩

end PinGate.Text
