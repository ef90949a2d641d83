-- Dependencies between blanks and quotes. A coordinate never reaches over a blank or a quote, so
-- the two sides of one are judged apart; of a text with neither, the first coordinate takes all the
-- rest.
import PinGate.Check.Java
import PinGate.Proofs.Text.Numbers
import PinGate.Proofs.Text.Search

namespace PinGate.Check

open Text

namespace MavenVersion

/-! ## Maven -/

/-- The tag in front of a version. -/
def tag : Text := "<version>".toList

theorem leavesTail_read : LeavesTail read? := by
  intro s v r h
  simp only [read?, Option.bind_eq_bind, Option.bind_eq_some_iff, Prod.exists, Option.pure_def,
    Option.some.injEq, Prod.mk.injEq] at h
  obtain ⟨s₁, h₁, v, s₂, h₂, s₃, h₃, -, rfl⟩ := h
  exact (dropPrefix?_suffix h₃).trans ((run?_suffix h₂).trans (dropPrefix?_suffix h₁))

theorem beginsWith_read : BeginsWith read? tag := by
  intro s v r h
  simp only [read?, Option.bind_eq_bind, Option.bind_eq_some_iff] at h
  obtain ⟨s₁, h₁, -⟩ := h
  exact ⟨s₁, (dropPrefix?_eq_some_iff.1 h₁).symm⟩

theorem all_of_no_tag {s : Text} (h : ¬ tag <:+: s) : all s = [] :=
  findAll_of_no_key leavesTail_read beginsWith_read h

end MavenVersion

namespace Coordinate

/-! ## One coordinate -/

/-- Whether a character stands between the words of a build: a blank or a quote. -/
def Separates (w : Char) : Prop := isBlank w = true ∨ w = '\'' ∨ w = '"'

instance : DecidablePred Separates := fun _ => inferInstanceAs (Decidable (_ ∨ _))

variable {s r b : Text} {w : Char} {d e : Coordinate}

theorem isVersionChar_eq_false_iff : isVersionChar w = false ↔ Separates w := by
  simp only [isVersionChar, Separates]
  grind

theorem isPartChar_eq_false (h : Separates w) : isPartChar w = false := by
  simp [isPartChar, isVersionChar_eq_false_iff.2 h]

/-- Whether a text is a group, an artifact and a version joined by colons, of which only the
version may hold colons itself. -/
structure Spells (d : Coordinate) (s : Text) : Prop where
  group_ne : d.group ≠ []
  group_plain : ':' ∉ d.group
  artifact_ne : d.artifact ≠ []
  artifact_plain : ':' ∉ d.artifact
  version_ne : d.version ≠ []
  whole : s = d.group ++ ':' :: (d.artifact ++ ':' :: d.version)

theorem readsAlone_read (h : Separates w) (s b : Text) : ReadsAlone read? s (w :: b) := by
  have hpart := isPartChar_eq_false h
  have hversion := isVersionChar_eq_false_iff.2 h
  have hcolon : w ∉ [':'] := by
    rw [List.mem_singleton]
    rintro rfl
    exact absurd hversion (by decide)
  refine ReadsAlone.bind (readsAlone_run hpart s b) fun group s => ?_
  refine ReadsAlone.behind_dropPrefix? hcolon (fun s => ?_) s
  refine ReadsAlone.bind (readsAlone_run hpart s b) fun artifact s => ?_
  refine ReadsAlone.behind_dropPrefix? hcolon (fun s => ?_) s
  exact ReadsAlone.bind (readsAlone_run hversion s b) fun version s => rfl

theorem leavesTail_read : LeavesTail read? := by
  intro s d r h
  simp only [read?, Option.bind_eq_bind, Option.bind_eq_some_iff, Prod.exists, Option.pure_def,
    Option.some.injEq, Prod.mk.injEq] at h
  obtain ⟨g, s₁, h₁, s₂, h₂, a, s₃, h₃, s₄, h₄, v, s₅, h₅, -, rfl⟩ := h
  exact (run?_suffix h₅).trans <| (dropPrefix?_suffix h₄).trans <| (run?_suffix h₃).trans <|
    (dropPrefix?_suffix h₂).trans (run?_suffix h₁)

theorem all_append (h : Separates w) (s b : Text) : all (s ++ w :: b) = all s ++ all b :=
  findAll_append leavesTail_read fun t _ => readsAlone_read h t b

/-! ## One word -/

section

variable (hs : ∀ c ∈ s, ¬ Separates c)

include hs

theorem isPartChar_eq_true {c : Char} (hc : c ∈ s) (hcolon : c ≠ ':') : isPartChar c = true := by
  have hversion : isVersionChar c ≠ false := fun h => hs c hc (isVersionChar_eq_false_iff.1 h)
  simpa [isPartChar, hcolon] using hversion

/-- In a text without blanks and quotes a version reaches to the end. -/
theorem read?_eq_some_iff : read? s = some (d, r) ↔ d.Spells s ∧ r = [] := by
  simp only [read?, Option.bind_eq_bind, Option.bind_eq_some_iff, Prod.exists, Option.pure_def,
    Option.some.injEq, Prod.mk.injEq, run?_eq_some_iff_append, dropPrefix?_eq_some_iff]
  constructor
  · rintro ⟨group, _, ⟨hgroup, hgchars, -, rfl⟩, _, rfl, artifact, _, ⟨hartifact, hachars, -, rfl⟩,
      _, rfl, version, rest, ⟨hversion, -, hrest, rfl⟩, rfl, rfl⟩
    have hplain {p : Text} (hp : ∀ c ∈ p, isPartChar c = true) : ':' ∉ p := by
      intro hmem
      cases hp ':' hmem
    have hnil : rest = [] := by
      rw [← List.head?_eq_none_iff, Option.eq_none_iff_forall_ne_some]
      intro c hc
      refine hs c ?_ (isVersionChar_eq_false_iff.1 (hrest c hc))
      simp [List.mem_of_mem_head? hc]
    rw [hnil, List.append_nil]
    exact ⟨⟨hgroup, hplain hgchars, hartifact, hplain hachars, hversion, rfl⟩, rfl⟩
  · rintro ⟨h, rfl⟩
    have hwhole := h.whole
    have hpart {p : Text} (hp : p ⊆ s) (hcolon : ':' ∉ p) : ∀ c ∈ p, isPartChar c = true :=
      fun c hc => isPartChar_eq_true hs (hp hc) (ne_of_mem_of_not_mem hc hcolon)
    have hgroup : d.group ⊆ s := fun c hc => by simp [hwhole, hc]
    have hartifact : d.artifact ⊆ s := fun c hc => by simp [hwhole, hc]
    have hversion : d.version ⊆ s := fun c hc => by simp [hwhole, hc]
    refine ⟨d.group, _, ⟨h.group_ne, hpart hgroup h.group_plain, ?_, hwhole⟩, _, rfl, d.artifact, _,
      ⟨h.artifact_ne, hpart hartifact h.artifact_plain, ?_, rfl⟩, _, rfl, d.version, [],
      ⟨h.version_ne, ?_, by simp, by simp⟩, rfl, rfl⟩
    · rintro c ⟨⟩
      rfl
    · rintro c ⟨⟩
      rfl
    · intro c hc
      simpa using mt isVersionChar_eq_false_iff.1 (hs c (hversion hc))

theorem read?_eq_none_iff : read? s = none ↔ ∀ d : Coordinate, ¬ d.Spells s := by
  constructor
  · intro h d hd
    rw [(read?_eq_some_iff hs).2 ⟨hd, rfl⟩] at h
    cases h
  · intro h
    rw [Option.eq_none_iff_forall_ne_some]
    rintro ⟨d, r⟩ hread
    exact h d ((read?_eq_some_iff hs).1 hread).1

/-- What a text spells from some place on, it spells in one way only. -/
theorem Spells.unique (hd : d.Spells s) (he : e.Spells s) : d = e := by
  have hread := (read?_eq_some_iff hs).2 ⟨hd, rfl⟩
  rw [(read?_eq_some_iff hs).2 ⟨he, rfl⟩] at hread
  cases hread
  rfl

end

/-- Whether a text spells a coordinate from the leftmost place from which it spells one. -/
def IsFirst (d : Coordinate) (s : Text) : Prop :=
  ∃ t, t <:+ s ∧ d.Spells t ∧ ∀ u (e : Coordinate), u <:+ s → e.Spells u → u.length ≤ t.length

theorem isFirst_iff_of_spells (hs : ∀ c ∈ s, ¬ Separates c) (h : d.Spells s) :
    e.IsFirst s ↔ e = d := by
  constructor
  · rintro ⟨t, ht, he, hmost⟩
    obtain rfl := ht.eq_of_length_le (hmost s d List.suffix_rfl h)
    exact he.unique hs h
  · rintro rfl
    exact ⟨s, List.suffix_rfl, h, fun _ _ hu _ => hu.length_le⟩

theorem isFirst_cons_iff {c : Char} (h : ∀ e : Coordinate, ¬ e.Spells (c :: s)) :
    d.IsFirst (c :: s) ↔ d.IsFirst s := by
  have hsuffix {t : Text} {e : Coordinate} (he : e.Spells t) : t <:+ c :: s ↔ t <:+ s := by
    rw [List.suffix_cons_iff]
    constructor
    · rintro (rfl | ht)
      · exact absurd he (h e)
      · exact ht
    · exact .inr
  constructor
  · rintro ⟨t, ht, hd, hmost⟩
    refine ⟨t, (hsuffix hd).1 ht, hd, fun u e hu he => hmost u e ((hsuffix he).2 hu) he⟩
  · rintro ⟨t, ht, hd, hmost⟩
    refine ⟨t, (hsuffix hd).2 ht, hd, fun u e hu he => hmost u e ((hsuffix he).1 hu) he⟩

theorem not_isFirst_nil : ¬ d.IsFirst [] := by
  rintro ⟨t, ht, hd, -⟩
  obtain rfl := List.suffix_nil.1 ht
  simpa using hd.whole

/-- A text without blanks and quotes has no coordinate but the first. -/
theorem all_word (hs : ∀ c ∈ s, ¬ Separates c) :
    (all s = [] ∧ ∀ d : Coordinate, ¬ d.IsFirst s) ∨
      ∃ d, all s = [d] ∧ ∀ e : Coordinate, e.IsFirst s ↔ e = d := by
  induction s with
  | nil => exact .inl ⟨findAll_nil _, fun _ => not_isFirst_nil⟩
  | cons c s ih =>
    cases hread : read? (c :: s) with
    | none =>
      have hspells := (read?_eq_none_iff hs).1 hread
      have hall : all (c :: s) = all s := findAll_cons_of_none hread
      simp only [hall, isFirst_cons_iff hspells]
      exact ih fun c' hc' => hs c' (List.mem_cons_of_mem c hc')
    | some p =>
      obtain ⟨d, r⟩ := p
      obtain ⟨hd, rfl⟩ := (read?_eq_some_iff hs).1 hread
      have hall : all (c :: s) = [d] := by
        unfold all
        rw [findAll_of_some hread, findAll_nil]
      exact .inr ⟨d, hall, fun _ => isFirst_iff_of_spells hs hd⟩

/-- Whether a version is resolved anew by each build. -/
def IsMoving (version : Text) : Prop := '+' ∈ version ∨ "latest".toList <:+: version

theorem isDynamic_iff : d.isDynamic = true ↔ IsMoving d.version := by
  unfold isDynamic IsMoving
  rw [Bool.or_eq_true, contains_singleton, contains_iff]

end Coordinate

/-! ## Builds without Maven versions -/

open Coordinate MavenVersion

variable {a b s : Text} {w : Char}

theorem java_of_no_tag (h : ¬ tag <:+: s) :
    java s = ((Coordinate.all s).filter isDynamic).map
      fun d => .gradleVersion d.group d.artifact d.version := by
  simp [java, all_of_no_tag h]

theorem not_infix_of_separates (hw : Separates w) (ha : ¬ tag <:+: a) (hb : ¬ tag <:+: b) :
    ¬ tag <:+: a ++ w :: b := by
  have htag : ∀ c ∈ tag, ¬ Separates c := by decide
  have hmem : w ∉ tag := fun hm => htag w hm hw
  intro h
  rcases infix_append_cons hmem h with h | h
  · exact ha h
  · exact hb h

theorem java_append (hw : Separates w) (ha : ¬ tag <:+: a) (hb : ¬ tag <:+: b) :
    java (a ++ w :: b) = java a ++ java b := by
  rw [java_of_no_tag (not_infix_of_separates hw ha hb), java_of_no_tag ha, java_of_no_tag hb,
    all_append hw, List.filter_append, List.map_append]

theorem java_lines (hs : ¬ tag <:+: s) : java s = (lines s).flatMap java := by
  induction s using by_lines with
  | last l hl => simp [lines_of_not_mem hl]
  | more l b hl ih =>
    have hline : ¬ tag <:+: l := fun h => hs (h.trans (List.prefix_append l _).isInfix)
    have hrest : ¬ tag <:+: b := fun h => hs (h.trans ⟨l ++ ['\n'], [], by simp⟩)
    rw [java_append (by decide) hline hrest, lines_append, lines_of_not_mem hl, ih hrest]
    simp

/-- In a build without Maven versions blanks and quotes part what is judged, so no line is read
together with another one. In a text without blanks and quotes there is one coordinate at most to
object to: the one from the leftmost place, with all that is left as its version, if that holds a
plus or the word for the latest version. -/
theorem builds_are_judged_word_by_word :
    (∀ a b w, Separates w → ¬ tag <:+: a → ¬ tag <:+: b → java (a ++ w :: b) = java a ++ java b) ∧
    (∀ s, ¬ tag <:+: s → java s = (lines s).flatMap java) ∧
    ∀ s, ¬ tag <:+: s → (∀ c ∈ s, ¬ Separates c) → (java s).length ≤ 1 ∧
      ∀ f, f ∈ java s ↔ ∃ d : Coordinate, d.IsFirst s ∧ IsMoving d.version ∧
        f = .gradleVersion d.group d.artifact d.version := by
  refine ⟨fun a b w hw ha hb => java_append hw ha hb, fun s hs => java_lines hs, ?_⟩
  intro s hs hword
  rw [java_of_no_tag hs]
  rcases all_word hword with ⟨hall, hnone⟩ | ⟨d, hall, hfirst⟩
  · simp [hall, hnone]
  · rw [hall]
    constructor
    · rw [List.length_map]
      exact List.length_filter_le _ [d]
    · intro f
      simp only [List.mem_map, List.mem_filter, List.mem_singleton, isDynamic_iff, hfirst,
        and_assoc, exists_eq_left, eq_comm (a := f)]

/-- A version without a closing quote in front of an added line, and a word in which the first place
to read from comes behind an empty artifact. -/
theorem markers_are_no_part_of_versions :
    let upper := "+api 'org.a:b:1.2".toList
    let lower := "+api \"org.c:d:1.+\"".toList
    let word := "a::b:c:d:latest".toList
    (Separates '\n' ∧ ¬ tag <:+: upper ∧ ¬ tag <:+: lower ∧ java (upper ++ '\n' :: lower) =
      [.gradleVersion "org.c".toList ['d'] "1.+".toList]) ∧
    ¬ tag <:+: word ∧ (∀ c ∈ word, ¬ Separates c) ∧ (java word).length ≤ 1 ∧
      ∃ d : Coordinate, d.IsFirst word ∧ IsMoving d.version := by
  intro upper lower word
  obtain ⟨hcut, -, hone⟩ := builds_are_judged_word_by_word
  have hupper : ¬ tag <:+: upper := by decide
  have hlower : ¬ tag <:+: lower := by decide
  have hword : ¬ tag <:+: word := by decide
  have hwhole : ∀ c ∈ word, ¬ Separates c := by decide
  obtain ⟨hlength, hmem⟩ := hone word hword hwhole
  refine ⟨⟨by decide, hupper, hlower, ?_⟩, hword, hwhole, hlength, ?_⟩
  · rw [hcut upper lower '\n' (by decide) hupper hlower]
    decide +kernel
  · have hfound : .gradleVersion ['b'] ['c'] "d:latest".toList ∈ java word := by decide +kernel
    obtain ⟨d, hd, hmoving, -⟩ := (hmem _).1 hfound
    exact ⟨d, hd, hmoving⟩

end PinGate.Check
