-- The laws of patterns for paths. A pattern stands for the texts that its pieces cover in order,
-- with any text at each star, and it admits exactly these: to look for the first place of each
-- piece but the last misses none. A pattern of characters alone stands for itself.
import PinGate.Glob.Pattern
import Mathlib.Data.List.Forall2

namespace PinGate.Glob.Pattern

open Text

/-! ## What a pattern stands for -/

/-- Whether a fixed piece stands for a text. -/
def Fits (piece : List Atom) (t : Text) : Prop :=
  List.Forall₂ (fun a c => a.admits c = true) piece t

/-- The texts made of the pieces behind stars, with any text in front of each. -/
inductive FitsTails : List (List Atom) → Text → Prop
  | nil : FitsTails [] []
  | cons {piece : List Atom} {pieces : List (List Atom)} {t rest : Text} (gap : Text)
    (hpiece : Fits piece t) (hrest : FitsTails pieces rest) :
    FitsTails (piece :: pieces) (gap ++ t ++ rest)

/-- The texts that a pattern stands for. -/
def StandsFor (p : Pattern) (s : Text) : Prop :=
  ∃ t rest, Fits p.head t ∧ FitsTails p.tails rest ∧ s = t ++ rest

/-! ## One piece -/

theorem dropPiece?_eq_some_iff {piece : List Atom} {s r : Text} :
    dropPiece? piece s = some r ↔ ∃ t, Fits piece t ∧ s = t ++ r := by
  induction piece generalizing s with
  | nil =>
    constructor
    · rintro ⟨⟩
      exact ⟨[], .nil, rfl⟩
    · rintro ⟨_, ⟨⟩, rfl⟩
      rfl
  | cons a piece ih =>
    cases s with
    | nil => simp [dropPiece?, Fits]
    | cons c s =>
      unfold Fits at *
      by_cases ha : a.admits c = true
      · simp only [dropPiece?, ha, if_true, ih]
        constructor
        · rintro ⟨t, ht, rfl⟩
          exact ⟨c :: t, .cons ha ht, rfl⟩
        · rintro ⟨_, ht, hs⟩
          cases ht with
          | cons _ ht =>
            obtain ⟨rfl, rfl⟩ := List.cons.inj hs
            exact ⟨_, ht, rfl⟩
      · simp only [dropPiece?, ha]
        constructor
        · intro h
          simp at h
        · rintro ⟨_, ht, hs⟩
          cases ht with
          | cons hd _ =>
            obtain ⟨rfl, -⟩ := List.cons.inj hs
            exact absurd hd ha

/-- Where a piece stands somewhere in a text, what follows its first place is found. -/
theorem afterPiece?_of_fits {piece : List Atom} {t : Text} (ht : Fits piece t) (gap r : Text) :
    ∃ r', afterPiece? piece (gap ++ t ++ r) = some r' ∧ r <:+ r' := by
  induction gap with
  | nil =>
    have hr : dropPiece? piece (t ++ r) = some r := dropPiece?_eq_some_iff.2 ⟨t, ht, rfl⟩
    refine ⟨r, ?_, List.suffix_rfl⟩
    rw [List.nil_append]
    cases h : t ++ r with
    | nil => rwa [h] at hr
    | cons c s =>
      rw [h] at hr
      simp [afterPiece?, hr]
  | cons c gap ih =>
    obtain ⟨r', hr', hsuffix⟩ := ih
    simp only [List.cons_append, afterPiece?]
    cases h : dropPiece? piece (c :: (gap ++ t ++ r)) with
    | none => exact ⟨r', hr', hsuffix⟩
    | some r'' =>
      -- The piece stands here already, with as much text behind it as at the later place.
      refine ⟨r'', rfl, ?_⟩
      obtain ⟨t', ht', hs⟩ := dropPiece?_eq_some_iff.1 h
      have hlength := (List.Forall₂.length_eq ht).symm.trans (List.Forall₂.length_eq ht')
      have hle : r.length ≤ r''.length := by
        have := congrArg List.length hs
        simp only [List.length_cons, List.length_append] at this
        omega
      have hwhole : r <:+ t' ++ r'' := by
        rw [← hs]
        exact ⟨c :: (gap ++ t), by simp⟩
      exact List.suffix_of_suffix_length_le hwhole (List.suffix_append t' r'') hle

theorem fits_of_afterPiece? {piece : List Atom} {s r : Text} (h : afterPiece? piece s = some r) :
    ∃ gap t, Fits piece t ∧ s = gap ++ t ++ r := by
  induction s with
  | nil =>
    obtain ⟨t, ht, hs⟩ := dropPiece?_eq_some_iff.1 h
    exact ⟨[], t, ht, hs⟩
  | cons c s ih =>
    simp only [afterPiece?] at h
    cases hd : dropPiece? piece (c :: s) with
    | some r' =>
      simp only [hd, Option.orElse_some, Option.some.injEq] at h
      obtain ⟨t, ht, hs⟩ := dropPiece?_eq_some_iff.1 hd
      exact ⟨[], t, ht, by rw [hs, h]; rfl⟩
    | none =>
      simp only [hd, Option.orElse_none] at h
      obtain ⟨gap, t, ht, rfl⟩ := ih h
      exact ⟨c :: gap, t, ht, by simp⟩

theorem endsWithPiece_iff {piece : List Atom} {s : Text} :
    endsWithPiece piece s = true ↔ ∃ gap t, Fits piece t ∧ s = gap ++ t := by
  simp only [endsWithPiece, Bool.and_eq_true, decide_eq_true_eq, beq_iff_eq,
    dropPiece?_eq_some_iff, List.append_nil]
  constructor
  · rintro ⟨-, t, ht, hs⟩
    exact ⟨s.take (s.length - piece.length), t, ht, by rw [← hs, List.take_append_drop]⟩
  · rintro ⟨gap, t, ht, rfl⟩
    have hlength := List.Forall₂.length_eq ht
    refine ⟨by simp [hlength], t, ht, ?_⟩
    rw [hlength, List.length_append, Nat.add_sub_cancel, List.drop_left]

/-! ## All pieces -/

/-- More text in front does no harm where a star stands first. -/
theorem FitsTails.of_suffix {pieces : List (List Atom)} {r s : Text} (hne : pieces ≠ [])
    (h : FitsTails pieces r) (hr : r <:+ s) : FitsTails pieces s := by
  obtain ⟨more, rfl⟩ := hr
  cases h with
  | nil => exact absurd rfl hne
  | cons gap hpiece hrest =>
    rw [← List.append_assoc, ← List.append_assoc]
    exact .cons (more ++ gap) hpiece hrest

theorem fitsTails_singleton_iff {piece : List Atom} {s : Text} :
    FitsTails [piece] s ↔ ∃ gap t, Fits piece t ∧ s = gap ++ t := by
  constructor
  · rintro (_ | ⟨gap, ht, hrest⟩)
    cases hrest
    exact ⟨gap, _, ht, List.append_nil _⟩
  · rintro ⟨gap, t, ht, rfl⟩
    rw [← List.append_nil (gap ++ t)]
    exact .cons gap ht .nil

theorem tailsMatch_iff {pieces : List (List Atom)} {s : Text} :
    tailsMatch pieces s = true ↔ FitsTails pieces s := by
  fun_induction tailsMatch pieces s with
  | case1 s =>
    rw [List.isEmpty_iff]
    constructor
    · rintro rfl
      exact .nil
    · rintro ⟨⟩
      rfl
  | case2 piece s => rw [endsWithPiece_iff, fitsTails_singleton_iff]
  | case3 piece pieces s hne r hr ih =>
    rw [ih]
    constructor
    · intro h
      obtain ⟨gap, t, ht, rfl⟩ := fits_of_afterPiece? hr
      exact .cons gap ht h
    · rintro (_ | ⟨gap, ht, hrest⟩)
      obtain ⟨r', hr', hsuffix⟩ := afterPiece?_of_fits ht gap _
      obtain rfl := Option.some.inj (hr.symm.trans hr')
      exact hrest.of_suffix (fun h => hne (by rw [h])) hsuffix
  | case4 piece pieces s hne hr =>
    constructor
    · nofun
    · rintro (_ | ⟨gap, ht, hrest⟩)
      obtain ⟨r', hr', -⟩ := afterPiece?_of_fits ht gap _
      rw [hr] at hr'
      cases hr'

/-- A pattern admits the texts that it stands for, and no others. -/
theorem admits_iff {p : Pattern} {s : Text} : p.admits s = true ↔ p.StandsFor s := by
  unfold admits StandsFor
  cases h : dropPiece? p.head s with
  | some r =>
    obtain ⟨t, ht, rfl⟩ := dropPiece?_eq_some_iff.1 h
    rw [tailsMatch_iff]
    constructor
    · intro hr
      exact ⟨t, r, ht, hr, rfl⟩
    · rintro ⟨t', rest, ht', hrest, hs⟩
      have hlength := (List.Forall₂.length_eq ht).symm.trans (List.Forall₂.length_eq ht')
      obtain ⟨-, rfl⟩ := List.append_inj hs hlength
      exact hrest
  | none =>
    constructor
    · nofun
    · rintro ⟨t, rest, ht, -, hs⟩
      rw [dropPiece?_eq_some_iff.2 ⟨t, ht, hs⟩] at h
      cases h

/-! ## Patterns of characters -/

/-- Whether a text holds none of the characters that mean something else in a pattern. -/
def IsLiteral (s : Text) : Prop := ∀ c ∈ s, c ≠ '*' ∧ c ≠ '?' ∧ c ≠ '[' ∧ c ≠ '{'

instance : DecidablePred IsLiteral := fun s =>
  List.decidableBAll (fun c => c ≠ '*' ∧ c ≠ '?' ∧ c ≠ '[' ∧ c ≠ '{') s

theorem parse_star (s : Text) :
    parse ('*' :: s) = ⟨[], (parse s).head :: (parse s).tails⟩ := by
  rw [parse]

theorem parse_literal_append {l : Text} (h : IsLiteral l) (s : Text) :
    parse (l ++ s) = ⟨l.map .char ++ (parse s).head, (parse s).tails⟩ := by
  induction l with
  | nil => rfl
  | cons c l ih =>
    obtain ⟨hstar, hone, hset, -⟩ := h c List.mem_cons_self
    have hl := ih fun d hd => h d (List.mem_cons_of_mem c hd)
    rw [List.cons_append, parse.eq_def]
    split
    · rename_i heq
      cases heq
    · rename_i heq
      exact absurd (List.cons.inj heq).1 hstar
    · rename_i heq
      exact absurd (List.cons.inj heq).1 hone
    · rename_i heq
      exact absurd (List.cons.inj heq).1 hset
    · rename_i heq
      obtain ⟨rfl, rfl⟩ := List.cons.inj heq
      rw [hl]
      rfl

theorem parse_literal {l : Text} (h : IsLiteral l) : parse l = ⟨l.map .char, []⟩ := by
  have hnil : parse [] = ⟨[], []⟩ := by rw [parse]
  simpa [hnil] using parse_literal_append h []

theorem fits_map_char_iff {l t : Text} : Fits (l.map .char) t ↔ t = l := by
  have hadmits : (fun a c => (Atom.char a).admits c = true) = (Eq : Char → Char → Prop) := by
    funext a c
    simp [Atom.admits]
  unfold Fits
  rw [List.forall₂_map_left_iff, hadmits, List.forall₂_eq_eq_eq]
  exact eq_comm

/-- Characters alone stand for themselves. -/
theorem standsFor_literal_iff {l s : Text} (h : IsLiteral l) :
    (parse l).StandsFor s ↔ s = l := by
  rw [parse_literal h]
  unfold StandsFor
  simp only [fits_map_char_iff]
  constructor
  · rintro ⟨t, rest, rfl, ⟨⟩, rfl⟩
    exact List.append_nil t
  · rintro rfl
    exact ⟨s, [], rfl, .nil, (List.append_nil s).symm⟩

/-- Whether a text begins and ends with two others that do not overlap in it. -/
def Surrounds (a b s : Text) : Prop := ∃ mid, s = a ++ mid ++ b

theorem Surrounds.begins {a b s : Text} (h : Surrounds a b s) : a <+: s := by
  obtain ⟨mid, rfl⟩ := h
  rw [List.append_assoc]
  exact List.prefix_append a _

theorem Surrounds.ends {a b s : Text} (h : Surrounds a b s) : b <:+ s := by
  obtain ⟨mid, rfl⟩ := h
  exact List.suffix_append _ b

/-- What begins a text and what ends it do not overlap when the last character of the one is not
in the other. -/
theorem surrounds_iff {a b s : Text} (h : ∀ c, a.getLast? = some c → c ∉ b) :
    Surrounds a b s ↔ a <+: s ∧ b <:+ s := by
  constructor
  · intro hs
    exact ⟨hs.begins, hs.ends⟩
  · rintro ⟨⟨r, rfl⟩, front, hb⟩
    rcases List.append_eq_append_iff.1 hb with ⟨shared, rfl, rfl⟩ | ⟨mid, rfl, rfl⟩
    · rcases List.eq_nil_or_concat shared with rfl | ⟨shared, c, rfl⟩
      · exact ⟨[], by simp⟩
      · exact absurd (by simp) (h c (by simp))
    · exact ⟨mid, by simp⟩

/-- A star between characters stands for any text. -/
theorem standsFor_star_iff {a b s : Text} (ha : IsLiteral a) (hb : IsLiteral b) :
    (parse (a ++ '*' :: b)).StandsFor s ↔ Surrounds a b s := by
  rw [parse_literal_append ha, parse_star, parse_literal hb]
  unfold StandsFor Surrounds
  simp only [List.append_nil, fits_map_char_iff, fitsTails_singleton_iff]
  constructor
  · rintro ⟨_, _, rfl, ⟨gap, _, rfl, rfl⟩, rfl⟩
    exact ⟨gap, (List.append_assoc _ _ _).symm⟩
  · rintro ⟨mid, rfl⟩
    exact ⟨a, mid ++ b, rfl, ⟨mid, b, rfl, rfl⟩, List.append_assoc _ _ _⟩

/-- Two stars in a row stand for no more than one. -/
theorem standsFor_stars_iff {a b s : Text} (ha : IsLiteral a) (hb : IsLiteral b) :
    (parse (a ++ '*' :: '*' :: b)).StandsFor s ↔ Surrounds a b s := by
  rw [parse_literal_append ha, parse_star, parse_star, parse_literal hb]
  unfold StandsFor Surrounds
  simp only [List.append_nil, fits_map_char_iff]
  constructor
  · rintro ⟨_, _, rfl, hrest, rfl⟩
    cases hrest with
    | cons gap hnil hrest =>
      obtain ⟨gap', t, ht, rfl⟩ := fitsTails_singleton_iff.1 hrest
      obtain rfl := fits_map_char_iff.1 ht
      cases hnil
      exact ⟨gap ++ gap', by simp⟩
  · rintro ⟨mid, rfl⟩
    have hb : FitsTails [b.map Atom.char] b :=
      fitsTails_singleton_iff.2 ⟨[], b, fits_map_char_iff.2 rfl, rfl⟩
    exact ⟨a, mid ++ [] ++ b, rfl, .cons mid .nil hb, by simp⟩

end PinGate.Glob.Pattern
