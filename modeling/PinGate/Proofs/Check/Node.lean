-- Packages among the strings of a text. A reader that is tried at every quote, also at those that
-- close a string, never falls out of step with the strings: it takes two strings that follow each
-- other for a package and its version exactly when they are joined by a colon.
import Mathlib.Data.List.Chain
import Mathlib.Data.List.Induction
import PinGate.Check.Node
import PinGate.Proofs.Text.Numbers
import PinGate.Proofs.Text.Search
import PinGate.Proofs.Text.Words

namespace PinGate.Check

open Text

namespace Member

/-- A string, and what stands between it and the next one. -/
structure Quoted where
  string : Text
  gap : Text
  deriving Repr, DecidableEq

/-- Some strings as they stand in a text. -/
def written (qs : List Quoted) : Text := qs.flatMap fun q => '"' :: (q.string ++ '"' :: q.gap)

/-- Whether a gap joins a name to a value: a colon, and then blanks or nothing. -/
def Joins (gap : Text) : Prop := ∃ blank ∈ blanks, gap = ':' :: blank

/-- Whether there is no quote in a string and its gap, and no colon in front of the string. -/
structure IsPlain (q : Quoted) : Prop where
  string_plain : '"' ∉ q.string
  gap_plain : '"' ∉ q.gap
  no_colon : q.string.head? ≠ some ':'

/-- Whether no gap joins two strings of which the second is a name itself. -/
def Apart (gaps : List Text) : Prop := gaps.IsChain fun g g' => ¬ (Joins g ∧ Joins g')

/-- Whether two strings that follow each other are a name and its value. -/
def IsMember (p q : Quoted) : Prop := p.string ≠ [] ∧ Joins p.gap ∧ q.string ≠ []

section

variable {gap s r : Text} {p q : Quoted} {qs : List Quoted}

instance : DecidablePred Joins := fun _ => decidable_of_iff' _ (eq_append_blanks_iff (p := [':']))

theorem isPlain_iff : IsPlain q ↔ '"' ∉ q.string ∧ '"' ∉ q.gap ∧ q.string.head? ≠ some ':' :=
  ⟨fun h => ⟨h.string_plain, h.gap_plain, h.no_colon⟩, fun h => ⟨h.1, h.2.1, h.2.2⟩⟩

instance : DecidablePred IsPlain := fun _ => decidable_of_iff' _ isPlain_iff

instance (gaps : List Text) : Decidable (Apart gaps) :=
  inferInstanceAs (Decidable (gaps.IsChain fun g g' => ¬ (Joins g ∧ Joins g')))

instance (p q : Quoted) : Decidable (IsMember p q) :=
  inferInstanceAs (Decidable (p.string ≠ [] ∧ Joins p.gap ∧ q.string ≠ []))

/-- The names with their values among some strings. -/
def members (qs : List Quoted) : List Member :=
  ((qs.zip qs.tail).filter fun pq => IsMember pq.1 pq.2).map fun pq => ⟨pq.1.string, pq.2.string⟩

theorem written_cons : written (q :: qs) = '"' :: (q.string ++ '"' :: (q.gap ++ written qs)) := by
  simp [written]

theorem members_cons_cons : members (p :: q :: qs) =
    if IsMember p q then ⟨p.string, q.string⟩ :: members (q :: qs) else members (q :: qs) := by
  by_cases h : IsMember p q <;> simp [members, h]

theorem members_of_not_joins (h : ¬ Joins q.gap) : members (q :: qs) = members qs := by
  cases qs with
  | nil => rfl
  | cons q' qs => rw [members_cons_cons, if_neg fun hmember => h hmember.2.1]

/-! ## Gaps -/

/-- What stands behind a joining gap and the quote behind it. -/
def behindJoin? (s : Text) : Option Text :=
  (dropPrefix? [':'] s).bind fun t => dropPrefix? ['"'] (skipBlanks t)

theorem behindJoin?_eq_some_iff :
    behindJoin? s = some r ↔ ∃ gap, Joins gap ∧ s = gap ++ '"' :: r := by
  have hreads : Recognises behindJoin? (verbatim [':'] * (blanks * verbatim ['"'])) :=
    (recognises_dropPrefix [':']).bind
      ((recognises_dropPrefix ['"']).behind_blanks (isFirm_verbatim rfl []))
  rw [hreads s r]
  constructor
  · rintro ⟨_, ⟨_, rfl, _, ⟨blank, hblank, _, rfl, rfl⟩, rfl⟩, rfl⟩
    exact ⟨':' :: blank, ⟨blank, hblank, rfl⟩, by simp⟩
  · rintro ⟨_, ⟨blank, hblank, rfl⟩, rfl⟩
    exact ⟨_, ⟨[':'], rfl, _, ⟨blank, hblank, ['"'], rfl, rfl⟩, rfl⟩, by simp⟩

theorem not_mem_of_joins (h : Joins gap) : '"' ∉ gap := by
  obtain ⟨blank, hblank, rfl⟩ := h
  intro hmem
  rcases List.mem_cons.1 hmem with hmem | hmem
  · cases hmem
  · cases hblank _ hmem

theorem behindJoin?_of_joins (h : Joins gap) : behindJoin? (gap ++ '"' :: s) = some s :=
  behindJoin?_eq_some_iff.2 ⟨gap, h, rfl⟩

theorem behindJoin?_of_not_joins (hgap : '"' ∉ gap) (h : ¬ Joins gap) :
    behindJoin? (gap ++ '"' :: s) = none := by
  rw [Option.eq_none_iff_forall_ne_some]
  intro r hr
  obtain ⟨gap', hjoins, hsplit⟩ := behindJoin?_eq_some_iff.1 hr
  have htake := congrArg (List.takeWhile (· != '"')) hsplit
  rw [takeWhile_append_stop rfl, takeWhile_append_stop rfl, takeWhile_of_not_mem hgap,
    takeWhile_of_not_mem (not_mem_of_joins hjoins)] at htake
  exact h (htake ▸ hjoins)

theorem behindJoin?_of_last (hgap : '"' ∉ gap) : behindJoin? gap = none := by
  rw [Option.eq_none_iff_forall_ne_some]
  intro r hr
  obtain ⟨gap', -, rfl⟩ := behindJoin?_eq_some_iff.1 hr
  exact hgap (by simp)

/-! ## One place to read at -/

/-- Only a quote begins a name. -/
theorem read?_of_head? (h : s.head? ≠ some '"') : read? s = none := by
  cases s with
  | nil => rfl
  | cons c s =>
    have hc : '"' ≠ c := by
      rintro rfl
      exact h rfl
    simp [read?, dropPrefix?, hc]

/-- A run of characters that are no quotes ends at the next quote. -/
theorem run?_plain (hne : s ≠ []) (hs : '"' ∉ s) (hr : ∀ c ∈ r.head?, c = '"') :
    run? (· != '"') (s ++ r) = some (s, r) := by
  apply run?_append hne
  · intro c hc
    simpa using ne_of_mem_of_not_mem hc hs
  · intro c hc
    simp [hr c hc]

theorem head?_written : ∀ c ∈ (written qs).head?, c = '"' := by
  cases qs with
  | nil => rintro c ⟨⟩
  | cons q qs =>
    rintro c ⟨⟩
    rfl

/-- The quote that closes a string begins no name: what would follow the name is the quote that
opens the next string, and there is no colon behind it. -/
theorem read?_closing (hgap : '"' ∉ gap) (hqs : ∀ q ∈ qs, IsPlain q) :
    read? ('"' :: (gap ++ written qs)) = none := by
  have hbehind : dropPrefix? ['"', ':'] (written qs) = none := by
    cases qs with
    | nil => rfl
    | cons q qs =>
      have hcolon := (hqs q List.mem_cons_self).no_colon
      rw [written_cons]
      cases hstring : q.string with
      | nil => rfl
      | cons c string =>
        have hc : ':' ≠ c := by
          rintro rfl
          rw [hstring] at hcolon
          exact hcolon rfl
        simp [dropPrefix?, hc]
  have hopen : dropPrefix? ['"'] ('"' :: (gap ++ written qs)) = some (gap ++ written qs) := rfl
  unfold read?
  rw [hopen]
  by_cases hnil : gap = []
  · cases qs with
    | nil => simp [hnil, written, run?]
    | cons q qs => simp [hnil, written_cons, run?]
  · simp [run?_plain hnil hgap head?_written, hbehind]

/-- The quote that opens a string begins a name, and the value is looked for behind it. -/
theorem read?_opening (hne : p.string ≠ []) (hstring : '"' ∉ p.string) :
    read? ('"' :: (p.string ++ '"' :: s)) = (behindJoin? s).bind fun v =>
      (run? (· != '"') v).bind fun x =>
        (dropPrefix? ['"'] x.2).map fun t => (⟨p.string, x.1⟩, t) := by
  have hopen : dropPrefix? ['"'] ('"' :: (p.string ++ '"' :: s)) =
      some (p.string ++ '"' :: s) := rfl
  have hrun : run? (· != '"') (p.string ++ '"' :: s) = some (p.string, '"' :: s) := by
    apply run?_plain hne hstring
    rintro c ⟨⟩
    rfl
  have hclose : dropPrefix? ['"', ':'] ('"' :: s) = dropPrefix? [':'] s := rfl
  unfold read? behindJoin?
  rw [hopen]
  simp only [Option.bind_eq_bind, Option.bind_some, hrun, hclose, Option.pure_def,
    Option.bind_assoc, Option.map_eq_bind]
  rfl

theorem read?_of_member (h : IsMember p q) (hp : IsPlain p) (hq : IsPlain q) :
    read? (written (p :: q :: qs)) = some (⟨p.string, q.string⟩, q.gap ++ written qs) := by
  have hvalue : run? (· != '"') (q.string ++ '"' :: (q.gap ++ written qs)) =
      some (q.string, '"' :: (q.gap ++ written qs)) := by
    apply run?_plain h.2.2 hq.string_plain
    rintro c ⟨⟩
    rfl
  rw [written_cons, written_cons, read?_opening h.1 hp.string_plain, behindJoin?_of_joins h.2.1,
    Option.bind_some, hvalue]
  rfl

theorem read?_of_not_member (h : ¬ IsMember p q) (hp : IsPlain p) :
    read? (written (p :: q :: qs)) = none := by
  rw [written_cons, written_cons]
  by_cases hname : p.string = []
  · rw [hname]
    rfl
  · rw [read?_opening hname hp.string_plain]
    by_cases hjoins : Joins p.gap
    · have hvalue : q.string = [] := by
        by_contra hne
        exact h ⟨hname, hjoins, hne⟩
      rw [behindJoin?_of_joins hjoins, hvalue]
      rfl
    · rw [behindJoin?_of_not_joins hp.gap_plain hjoins]
      rfl

theorem read?_of_last (hp : IsPlain p) : read? (written [p]) = none := by
  rw [written_cons]
  by_cases hname : p.string = []
  · rw [hname]
    rfl
  · have hgap : behindJoin? (p.gap ++ written []) = none := by
      rw [show written [] = [] from rfl, List.append_nil]
      exact behindJoin?_of_last hp.gap_plain
    rw [read?_opening hname hp.string_plain, hgap]
    rfl

/-! ## In step -/

theorem all_gap (hgap : '"' ∉ gap) : all (gap ++ s) = all s := by
  apply findAll_skip
  intro t ht hne
  apply read?_of_head?
  obtain ⟨c, t, rfl⟩ := List.exists_cons_of_ne_nil hne
  rintro ⟨⟩
  exact hgap (ht.subset List.mem_cons_self)

/-- A string that is no name is passed over with its gap, the quote that closes it included. -/
theorem all_of_no_name (h : read? (written (p :: qs)) = none) (hp : IsPlain p)
    (hqs : ∀ q ∈ qs, IsPlain q) : all (written (p :: qs)) = all (written qs) := by
  rw [written_cons] at h ⊢
  have hopen : all ('"' :: (p.string ++ '"' :: (p.gap ++ written qs))) =
      all (p.string ++ '"' :: (p.gap ++ written qs)) := findAll_cons_of_none h
  have hclose : all ('"' :: (p.gap ++ written qs)) = all (p.gap ++ written qs) :=
    findAll_cons_of_none (read?_closing hp.gap_plain hqs)
  rw [hopen, all_gap hp.string_plain, hclose, all_gap hp.gap_plain]

/-- A search finds the names with their values: it goes on behind a value where no name is missed,
and else behind the next string. -/
theorem all_written (hqs : ∀ q ∈ qs, IsPlain q) (hapart : Apart (qs.map Quoted.gap)) :
    all (written qs) = members qs := by
  induction qs using List.twoStepInduction with
  | nil => exact findAll_nil _
  | singleton p =>
    have hp := hqs p List.mem_cons_self
    rw [all_of_no_name (read?_of_last hp) hp (by simp)]
    exact findAll_nil _
  | cons_cons p q qs ih ih' =>
    have hp := hqs p List.mem_cons_self
    have hrest : ∀ q' ∈ q :: qs, IsPlain q' := fun q' hq' => hqs q' (List.mem_cons_of_mem p hq')
    have hq := hrest q List.mem_cons_self
    obtain ⟨hgaps, hapart'⟩ := List.isChain_cons_cons.1 hapart
    rw [members_cons_cons]
    by_cases hmember : IsMember p q
    · have hgap : ¬ Joins q.gap := fun hjoins => hgaps ⟨hmember.2.1, hjoins⟩
      have hbehind := ih (fun q' hq' => hrest q' (List.mem_cons_of_mem q hq')) hapart'.tail
      have hfound : all (written (p :: q :: qs)) =
          ⟨p.string, q.string⟩ :: all (q.gap ++ written qs) :=
        findAll_of_some (read?_of_member hmember hp hq)
      rw [if_pos hmember, hfound, all_gap hq.gap_plain, hbehind, members_of_not_joins hgap]
    · rw [if_neg hmember, all_of_no_name (read?_of_not_member hmember hp) hp hrest]
      exact ih' q hrest hapart'

end

end Member

/-! ## Packages -/

open Member

/-- A text cut at its quotes: what stands in front of the first string, and the strings. -/
structure Document where
  lead : Text
  strings : List Quoted
  lead_plain : '"' ∉ lead
  strings_plain : ∀ q ∈ strings, IsPlain q
  apart : Apart (lead :: strings.map Quoted.gap)

/-- The text itself. -/
def Document.text (d : Document) : Text := d.lead ++ written d.strings

/-- Whether two strings that follow each other are a package and a version that can move. -/
structure IsLoosePackage (p q : Quoted) : Prop where
  name_ne : p.string ≠ []
  joined : Joins p.gap
  version_ne : q.string ≠ []
  moves : q.string.head? = some '^' ∨ q.string.head? = some '~' ∨ q.string = ['*']

theorem startsWith_singleton {c : Char} {s : Text} :
    startsWith [c] s = true ↔ s.head? = some c := by
  unfold startsWith
  rw [List.isPrefixOf_iff_prefix]
  constructor
  · rintro ⟨r, rfl⟩
    rfl
  · intro h
    obtain ⟨r, rfl⟩ := List.head?_eq_some_iff.1 h
    exact List.prefix_append [c] r

theorem isLoosePackage_iff {p q : Quoted} : IsLoosePackage p q ↔
    IsMember p q ∧ isRange ⟨p.string, q.string⟩ = true := by
  unfold isRange
  simp only [Bool.or_eq_true, startsWith_singleton, beq_iff_eq, or_assoc]
  exact ⟨fun h => ⟨⟨h.name_ne, h.joined, h.version_ne⟩, h.moves⟩,
    fun h => ⟨h.1.1, h.1.2.1, h.1.2.2, h.2⟩⟩

instance (p q : Quoted) : Decidable (IsLoosePackage p q) := decidable_of_iff' _ isLoosePackage_iff

/-- Of the strings that follow each other those are objected to, once each and in order, that are a
package and a version that can move. -/
theorem loose_packages_are_found_once_each (d : Document) : node d.text =
    ((d.strings.zip d.strings.tail).filter fun pq => IsLoosePackage pq.1 pq.2).map
      fun pq => .packageRange pq.1.string pq.2.string := by
  have hall : all d.text = members d.strings := by
    unfold Document.text
    rw [all_gap d.lead_plain, all_written d.strings_plain d.apart.tail]
  unfold node
  rw [hall, members, List.filter_map, List.map_map, List.filter_filter]
  congr 1
  apply List.filter_congr
  intro pq _
  rw [Bool.eq_iff_iff]
  simp [isLoosePackage_iff, and_comm]

/-- Names that look like versions, a name that is empty, and a colon that stands by itself. -/
def oddPackages : Document where
  lead := "+\x7b".toList
  strings :=
    [⟨"deps".toList, ": \x7b".toList⟩, ⟨['a'], ":\n  ".toList⟩, ⟨"^1.0".toList, ",".toList⟩,
      ⟨"~b".toList, ": ".toList⟩, ⟨"2.0".toList, ", ".toList⟩, ⟨[], ":".toList⟩, ⟨['*'], [',']⟩,
      ⟨['c'], [':']⟩, ⟨['*'], ", ".toList⟩, ⟨['d'], " : ".toList⟩, ⟨"~3".toList, "\x7d\x7d".toList⟩]
  lead_plain := by decide
  strings_plain := by decide
  apart := by decide

theorem odd_packages_are_found : node oddPackages.text =
    [.packageRange ['a'] "^1.0".toList, .packageRange ['c'] ['*']] := by
  rw [loose_packages_are_found_once_each]
  decide

end PinGate.Check
