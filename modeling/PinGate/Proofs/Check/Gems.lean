-- Gems line by line. A reader that is tried everywhere stays in step with the lines as long as it
-- begins at their own words: from a gem without a version it never gets to the next line. It loses
-- its step in one way only, at a name that ends with the word `gem` and a blank: the quote behind
-- the name then opens one, and what comes up to the next quote is read as a gem that no line has.
import PinGate.Check.Gems
import PinGate.Proofs.Text.Numbers
import PinGate.Proofs.Text.Parts
import PinGate.Proofs.Text.Search
import PinGate.Proofs.Text.Words

namespace PinGate.Check

open Text

namespace Gem

/-- The word in front of a gem. -/
def key : Text := ['g', 'e', 'm']

/-- Whether a text is on one line and has no quotes. -/
def IsFree (s : Text) : Prop := ∀ c ∈ s, isQuote c = false ∧ c ≠ '\n'

/-- Whether there is nothing but spaces and tabs in a text. -/
def IsIndent (s : Text) : Prop := ∀ c ∈ s, c = ' ' ∨ c = '\t'

instance : DecidablePred IsFree := fun s =>
  inferInstanceAs (Decidable (∀ c ∈ s, isQuote c = false ∧ c ≠ '\n'))

instance : DecidablePred IsIndent := fun s =>
  inferInstanceAs (Decidable (∀ c ∈ s, c = ' ' ∨ c = '\t'))

/-! ## Lines of a Gemfile -/

/-- Something between quotes of either kind. -/
structure Quoted where
  opening : Char
  text : Text
  closing : Char
  opening_isQuote : isQuote opening = true
  closing_isQuote : isQuote closing = true
  text_ne : text ≠ []
  text_free : IsFree text

/-- A version behind a comma. -/
structure Version where
  before : Text
  behind : Text
  quoted : Quoted
  before_blank : IsIndent before
  behind_blank : IsIndent behind

/-- What a line says about a gem. -/
structure Entry where
  gap : Text
  name : Quoted
  version? : Option Version
  rest : Text
  gap_ne : gap ≠ []
  gap_blank : IsIndent gap
  rest_free : IsFree rest

/-- The part of a line in front of a gem: the marker of a diff or none, and blanks. -/
structure Lead where
  marker : Text
  indent : Text
  marker_form : marker = [] ∨ marker = ['+'] ∨ marker = [' ']
  indent_blank : IsIndent indent

/-- A line: anything without quotes, or a gem. -/
inductive Line where
  | plain (text : Text) (free : IsFree text)
  | gem (lead : Lead) (entry : Entry)

/-- The quotes with what is between them, in front of a text. -/
def Quoted.write (q : Quoted) (s : Text) : Text := q.opening :: (q.text ++ q.closing :: s)

def Version.write (v : Version) (s : Text) : Text :=
  v.before ++ ',' :: (v.behind ++ v.quoted.write s)

/-- What stands behind the name of a gem, in front of a text. -/
def Entry.writeBehind (e : Entry) (s : Text) : Text :=
  e.version?.elim (e.rest ++ s) fun v => v.write (e.rest ++ s)

def Entry.write (e : Entry) (s : Text) : Text := key ++ (e.gap ++ e.name.write (e.writeBehind s))

def Lead.text (l : Lead) : Text := l.marker ++ l.indent

/-- A line in front of a text. -/
def Line.write (s : Text) : Line → Text
  | .plain text _ => text ++ s
  | .gem lead entry => lead.text ++ entry.write s

/-- The text of some lines. -/
def textOf (ls : List Line) : Text := unlines (ls.map (Line.write []))

def Line.entry? : Line → Option Entry
  | .plain _ _ => none
  | .gem _ entry => some entry

/-- The gems of some lines, those without a version included. -/
def entries (ls : List Line) : List Entry := ls.filterMap Line.entry?

/-- The gem of an entry that has a version. -/
def Entry.gem? (e : Entry) : Option Gem := e.version?.map fun v => ⟨e.name.text, v.quoted.text⟩

/-- The gems that some lines give a version. -/
def declared (ls : List Line) : List Gem := (entries ls).filterMap Entry.gem?

/-! ## Out of step -/

/-- Whether a name ends with the word in front of a gem and blanks. -/
def EndsWithKey (name : Text) : Prop := ∃ gap ∈ someBlanks, key ++ gap <:+ name

/-- Whether there is nothing but a comma, with blanks or none around it, in a name. -/
def IsComma (name : Text) : Prop :=
  ∃ before ∈ blanks, ∃ behind ∈ blanks, name = before ++ ',' :: behind

/-- Whether the name of the first gem passes for the comma in front of a version. The version is
what stands up to one more quote, of the same gem or of a later one. -/
def StandsForComma : List Entry → Prop
  | e :: es => IsComma e.name.text ∧ (e.version?.isSome ∨ es ≠ [])
  | [] => False

/-- Whether the quote behind the name of the first gem opens a name that ends in the second one. -/
def RunsOver : List Entry → Prop
  | e :: es => e.version? = none ∧ EndsWithKey e.name.text ∧ StandsForComma es
  | [] => False

/-- Whether one of some gems runs over. -/
def Crosses (es : List Entry) : Prop := ∃ t ∈ es.tails, RunsOver t

section

variable {name s t u w r b : Text} {c q : Char} {l : Line} {ls : List Line} {e : Entry}
  {es : List Entry} {v : Version}

/-! ## Characters -/

theorem endsWithKey_iff : EndsWithKey name ↔
    ∃ t ∈ name.tails, ∃ gap ∈ dropPrefix? key t, gap ≠ [] ∧ ∀ c ∈ gap, isBlank c = true := by
  simp only [EndsWithKey, List.mem_tails, Option.mem_def, dropPrefix?_eq_some_iff]
  constructor
  · rintro ⟨gap, ⟨hne, hgap⟩, hname⟩
    exact ⟨_, hname, gap, rfl, hne, hgap⟩
  · rintro ⟨_, hname, gap, rfl, hne, hgap⟩
    exact ⟨gap, ⟨hne, hgap⟩, hname⟩

instance : DecidablePred EndsWithKey := fun _ => decidable_of_iff' _ endsWithKey_iff

theorem isComma_iff : IsComma name ↔
    ∃ r ∈ dropPrefix? [','] (skipBlanks name), ∀ c ∈ r, isBlank c = true := by
  simp only [IsComma, Option.mem_def, dropPrefix?_eq_some_iff]
  constructor
  · rintro ⟨before, hbefore, behind, hbehind, rfl⟩
    refine ⟨behind, ?_, hbehind⟩
    exact skipBlanks_append hbefore (by rintro c ⟨⟩; rfl)
  · rintro ⟨behind, hname, hbehind⟩
    obtain ⟨before, hbefore, hsplit⟩ := exists_blanks_append name
    exact ⟨before, hbefore, behind, hbehind, by rw [← hsplit, hname]; rfl⟩

instance : DecidablePred IsComma := fun _ => decidable_of_iff' _ isComma_iff

instance : DecidablePred StandsForComma
  | [] => isFalse id
  | e :: es => decidable_of_iff (IsComma e.name.text ∧ (e.version?.isSome ∨ es.isEmpty = false))
      (by simp [StandsForComma])

instance : DecidablePred RunsOver
  | [] => isFalse id
  | e :: es => decidable_of_iff (e.version?.isNone ∧ EndsWithKey e.name.text ∧ StandsForComma es)
      (by simp [RunsOver])

instance : DecidablePred Crosses := fun es =>
  inferInstanceAs (Decidable (∃ t ∈ es.tails, RunsOver t))

theorem crosses_cons_iff : Crosses (e :: es) ↔ RunsOver (e :: es) ∨ Crosses es := by
  simp [Crosses]

theorem IsFree.append (hs : IsFree s) (ht : IsFree t) : IsFree (s ++ t) :=
  List.forall_mem_append.2 ⟨hs, ht⟩

theorem IsFree.of_subset (hs : IsFree s) (ht : t ⊆ s) : IsFree t := fun c hc => hs c (ht hc)

theorem IsIndent.isFree (h : IsIndent s) : IsFree s := by
  intro c hc
  rcases h c hc with rfl | rfl <;> decide

theorem IsIndent.mem_blanks (h : IsIndent s) : s ∈ blanks := by
  intro c hc
  rcases h c hc with rfl | rfl
  · rfl
  · rfl

theorem isBlank_of_isQuote (h : isQuote q = true) : isBlank q = false := by
  simp only [isQuote, Bool.or_eq_true, beq_iff_eq] at h
  rcases h with rfl | rfl <;> rfl

theorem ne_of_isQuote (hq : isQuote q = true) (hc : isQuote c = false) : q ≠ c := by
  rintro rfl
  rw [hq] at hc
  cases hc

theorem isFree_key : IsFree key := by decide

theorem not_mem_key_of_isQuote (h : isQuote q = true) : q ∉ key := by
  intro hq
  exact ne_of_isQuote h (isFree_key q hq).1 rfl

/-! ## Readers -/

/-- Only the first letter of the word begins a gem. -/
theorem read?_of_head? (h : s.head? ≠ some 'g') : read? s = none := by
  cases s with
  | nil => rfl
  | cons c s =>
    have hc : 'g' ≠ c := by
      rintro rfl
      exact h rfl
    simp [read?, dropPrefix?, hc]

theorem readQuoted?_of_head? (h : ∀ c ∈ s.head?, isQuote c = false) : readQuoted? s = none := by
  cases s with
  | nil => rfl
  | cons c s => simp [readQuoted?, dropOne?, h c rfl]

theorem readQuoted?_quoted (hq : isQuote q = true) (hw : w ≠ [])
    (hfree : ∀ c ∈ w, isQuote c = false) (hc : isQuote c = true) (s : Text) :
    readQuoted? (q :: (w ++ c :: s)) = some (w, s) := by
  have hrun : run? (fun c => !isQuote c) (w ++ c :: s) = some (w, c :: s) := by
    apply run?_append hw
    · intro d hd
      simp [hfree d hd]
    · rintro d ⟨⟩
      simp [hc]
  simp [readQuoted?, dropOne?, hq, hrun, hc]

/-- Nothing is between quotes when only one quote is left. -/
theorem readQuoted?_of_last (hs : ∀ c ∈ s, isQuote c = false) : readQuoted? (q :: s) = none := by
  have hdrop : s.dropWhile (fun c => !isQuote c) = [] := by
    rw [List.dropWhile_eq_nil_iff]
    intro c hc
    simp [hs c hc]
  by_cases hq : isQuote q = true
  · cases hrun : run? (fun c => !isQuote c) s with
    | none => simp [readQuoted?, dropOne?, hq, hrun]
    | some p =>
      have hrest : p.2 = [] := by rw [← (run?_eq_some_iff.1 hrun).2.2, hdrop]
      simp [readQuoted?, dropOne?, hq, hrun, hrest]
  · simp [readQuoted?, dropOne?, hq]

theorem Quoted.readQuoted?_write (q : Quoted) (s : Text) :
    readQuoted? (q.write s) = some (q.text, s) :=
  readQuoted?_quoted q.opening_isQuote q.text_ne (fun c hc => (q.text_free c hc).1)
    q.closing_isQuote s

theorem Quoted.isBare_write (q : Quoted) (s : Text) : IsBare (q.write s) := by
  rintro c ⟨⟩
  exact isBlank_of_isQuote q.opening_isQuote

/-- The version that starts a text, behind a comma with blanks or none around it. -/
def readVersion? (s : Text) : Option (Text × Text) :=
  (dropPrefix? [','] (skipBlanks s)).bind fun s => readQuoted? (skipBlanks s)

/-- The quoted name that starts a text, with a version behind it. -/
def readNamed? (s : Text) : Option (Gem × Text) :=
  (readQuoted? s).bind fun p => (readVersion? p.2).map fun x => (⟨p.1, x.1⟩, x.2)

theorem read?_eq (s : Text) :
    read? s = (dropPrefix? key s).bind fun s => (skipSomeBlanks? s).bind readNamed? := by
  unfold read? readNamed? readVersion? key
  simp only [Option.bind_eq_bind, Option.pure_def, Option.map_eq_bind, Option.bind_assoc]
  rfl

theorem readNamed?_of_head? (h : ∀ c ∈ s.head?, isQuote c = false) : readNamed? s = none := by
  rw [readNamed?, readQuoted?_of_head? h]
  rfl

theorem Version.readVersion?_write (v : Version) (s : Text) :
    readVersion? (v.write s) = some (v.quoted.text, s) := by
  have hcomma : skipBlanks (v.write s) = ',' :: (v.behind ++ v.quoted.write s) :=
    skipBlanks_append v.before_blank.mem_blanks (by rintro c ⟨⟩; rfl)
  have hquote : skipBlanks (v.behind ++ v.quoted.write s) = v.quoted.write s :=
    skipBlanks_append v.behind_blank.mem_blanks (v.quoted.isBare_write s)
  unfold readVersion?
  rw [hcomma, dropPrefix?_eq_some_iff.2 (List.singleton_append ..).symm, Option.bind_some, hquote,
    v.quoted.readQuoted?_write]

/-- In front of a quote the first character that is not blank is no quote, unless there is none. -/
theorem head?_skipBlanks_append (hs : skipBlanks s ≠ []) (hfree : IsFree s) (b : Text) :
    ∀ c ∈ (skipBlanks (s ++ b)).head?, isQuote c = false := by
  rw [skipBlanks_append_of_ne_nil hs]
  intro c hc
  rw [List.head?_append_of_ne_nil _ hs] at hc
  exact (hfree c ((skipBlanks_suffix s).subset (List.mem_of_mem_head? hc))).1

/-- A name is skipped in front of a version when it is a comma. -/
theorem readVersion?_name (hname : IsFree name) (hq : isQuote q = true) (s : Text) :
    readVersion? (name ++ q :: s) = if IsComma name then readQuoted? (q :: s) else none := by
  have hbare : IsBare (q :: s) := by
    rintro c ⟨⟩
    exact isBlank_of_isQuote hq
  split
  · next hcomma =>
    obtain ⟨before, hbefore, behind, hbehind, rfl⟩ := hcomma
    have hskip : skipBlanks (before ++ ',' :: behind ++ q :: s) = ',' :: (behind ++ q :: s) := by
      rw [List.append_assoc]
      exact skipBlanks_append hbefore (by rintro c ⟨⟩; rfl)
    unfold readVersion?
    rw [hskip, dropPrefix?_eq_some_iff.2 (List.singleton_append ..).symm, Option.bind_some,
      skipBlanks_append hbehind hbare]
  · next hcomma =>
    by_cases hblank : skipBlanks name = []
    · have hskip : skipBlanks (name ++ q :: s) = q :: s :=
        skipBlanks_append (skipBlanks_eq_nil_iff.1 hblank) hbare
      have hne : ',' ≠ q := (ne_of_isQuote hq rfl).symm
      simp [readVersion?, hskip, dropPrefix?, hne]
    · obtain ⟨c, behind, hc⟩ := List.exists_cons_of_ne_nil hblank
      unfold readVersion?
      rw [skipBlanks_append_of_ne_nil hblank, hc]
      by_cases hsign : ',' = c
      · subst hsign
        have hrest : skipBlanks behind ≠ [] := by
          intro hnil
          exact hcomma (isComma_iff.2 ⟨behind, by rw [hc]; rfl, skipBlanks_eq_nil_iff.1 hnil⟩)
        have hfree : IsFree behind := by
          apply hname.of_subset
          have hsub := (skipBlanks_suffix name).subset
          rw [hc] at hsub
          exact List.subset_of_cons_subset hsub
        exact readQuoted?_of_head? (head?_skipBlanks_append hrest hfree (q :: s))
      · simp [dropPrefix?, hsign]

/-! ## What stands behind a line -/

/-- The lines behind another one, each with the line feed in front of it. -/
def behind : List Line → Text
  | [] => []
  | l :: ls => '\n' :: l.write (behind ls)

theorem Entry.write_append (e : Entry) (s : Text) : e.write s = e.write [] ++ s := by
  unfold Entry.write Entry.writeBehind Version.write
  cases e.version? <;> simp [Quoted.write]

theorem Line.write_append (l : Line) (s : Text) : l.write s = l.write [] ++ s := by
  cases l with
  | plain text _ => simp [Line.write]
  | gem lead entry =>
    have hentry := entry.write_append s
    simp [Line.write, hentry]

theorem textOf_cons (l : Line) (ls : List Line) : textOf (l :: ls) = l.write (behind ls) := by
  induction ls generalizing l with
  | nil => simp [textOf, unlines, behind]
  | cons l' ls ih =>
    have hrest := ih l'
    unfold textOf unlines at hrest ⊢
    rw [behind, l.write_append, List.map_cons, List.map_cons, List.intercalate_cons_cons,
      ← List.map_cons, hrest]
    simp

/-- What comes first behind something without quotes, blanks left out, is no quote; and when it is
a comma, then what stands behind it is once more something without quotes, and lines. -/
theorem skipBlanks_behind (hu : IsFree u) (ls : List Line) :
    skipBlanks (u ++ behind ls) = [] ∨
    (∃ c u' ls', skipBlanks (u ++ behind ls) = c :: (u' ++ behind ls') ∧ IsFree (c :: u')) ∨
    ∃ c s, skipBlanks (u ++ behind ls) = c :: s ∧ isQuote c = false ∧ c ≠ ',' := by
  induction ls generalizing u with
  | nil =>
    rw [behind, List.append_nil]
    cases hskip : skipBlanks u with
    | nil => exact .inl rfl
    | cons c u' =>
      refine .inr (.inl ⟨c, u', [], by simp [behind], ?_⟩)
      exact hu.of_subset (hskip ▸ (skipBlanks_suffix u).subset)
  | cons l ls ih =>
    by_cases hblank : skipBlanks u = []
    · have hskip : skipBlanks (u ++ behind (l :: ls)) = skipBlanks (l.write (behind ls)) := by
        unfold skipBlanks
        rw [List.dropWhile_append_of_pos (skipBlanks_eq_nil_iff.1 hblank)]
        rfl
      rw [hskip]
      cases l with
      | plain text free => exact ih free
      | gem lead entry =>
        have hindent := lead.indent_blank.mem_blanks
        have hkey : skipBlanks (lead.indent ++ entry.write (behind ls)) = entry.write (behind ls) :=
          skipBlanks_append hindent (by rintro c ⟨⟩; rfl)
        refine .inr (.inr ?_)
        change ∃ c s,
          skipBlanks (lead.marker ++ lead.indent ++ entry.write (behind ls)) = c :: s ∧ _
        rcases lead.marker_form with hmarker | hmarker | hmarker
        · rw [hmarker, List.nil_append, hkey]
          exact ⟨'g', _, rfl, by decide⟩
        · rw [hmarker]
          exact ⟨'+', _, rfl, by decide⟩
        · have hspace : skipBlanks (' ' :: (lead.indent ++ entry.write (behind ls))) =
              entry.write (behind ls) := hkey
          rw [hmarker, List.singleton_append, List.cons_append, hspace]
          exact ⟨'g', _, rfl, by decide⟩
    · obtain ⟨c, u', hc⟩ := List.exists_cons_of_ne_nil hblank
      refine .inr (.inl ⟨c, u', l :: ls, ?_, ?_⟩)
      · rw [skipBlanks_append_of_ne_nil hblank, hc, List.cons_append]
      · exact hu.of_subset (hc ▸ (skipBlanks_suffix u).subset)

theorem head?_skipBlanks_behind (hu : IsFree u) (ls : List Line) :
    ∀ c ∈ (skipBlanks (u ++ behind ls)).head?, isQuote c = false := by
  rcases skipBlanks_behind hu ls with h | ⟨c, u', ls', h, hfree⟩ | ⟨c, s, h, hc, -⟩
  · simp [h]
  · rw [h]
    rintro _ ⟨⟩
    exact (hfree c List.mem_cons_self).1
  · rw [h]
    rintro _ ⟨⟩
    exact hc

/-- No version is found behind something without quotes, because no line begins with a quote. -/
theorem readVersion?_behind (hu : IsFree u) (ls : List Line) :
    readVersion? (u ++ behind ls) = none := by
  unfold readVersion?
  rcases skipBlanks_behind hu ls with h | ⟨c, u', ls', h, hfree⟩ | ⟨c, s, h, -, hc⟩
  · rw [h]
    rfl
  · rw [h]
    by_cases hcomma : ',' = c
    · have hu' : IsFree u' := hfree.of_subset (List.subset_cons_self c u')
      have hnone := readQuoted?_of_head? (head?_skipBlanks_behind hu' ls')
      subst hcomma
      exact hnone
    · simp [dropPrefix?, hcomma]
  · rw [h]
    simp [dropPrefix?, hc.symm]

theorem eq_skipBlanks_of_skipSomeBlanks? (h : skipSomeBlanks? s = some r) : r = skipBlanks s := by
  obtain ⟨hbare, t, ht, rfl⟩ := skipSomeBlanks?_eq_some_iff.1 h
  exact (skipBlanks_append ht.2 hbare).symm

/-- Nor is a gem read from something without quotes. -/
theorem read?_behind (hu : IsFree u) (ls : List Line) : read? (u ++ behind ls) = none := by
  have hkey : dropPrefix? key (u ++ behind ls) = (dropPrefix? key u).map (· ++ behind ls) := by
    cases ls with
    | nil => simp [behind]
    | cons l ls => exact dropPrefix?_append (by decide) u _
  rw [read?_eq, hkey]
  cases hu' : dropPrefix? key u with
  | none => rfl
  | some u' =>
    have hfree : IsFree u' := hu.of_subset (dropPrefix?_suffix hu').subset
    rw [Option.map_some, Option.bind_some]
    cases hskip : skipSomeBlanks? (u' ++ behind ls) with
    | none => rfl
    | some r =>
      rw [Option.bind_some, eq_skipBlanks_of_skipSomeBlanks? hskip]
      exact readNamed?_of_head? (head?_skipBlanks_behind hfree ls)

theorem all_behind_free (hu : IsFree u) (ls : List Line) :
    all (u ++ behind ls) = all (behind ls) :=
  findAll_skip fun _ ht _ => read?_behind (hu.of_subset ht.subset) ls

theorem all_of_not_mem (hs : 'g' ∉ s) : all (s ++ t) = all t := by
  apply findAll_skip
  intro a ha hne
  apply read?_of_head?
  obtain ⟨c, a, rfl⟩ := List.exists_cons_of_ne_nil hne
  rintro ⟨⟩
  exact hs (ha.subset List.mem_cons_self)

theorem not_mem_of_isIndent (h : IsIndent s) : 'g' ∉ s := by
  intro hg
  rcases h 'g' hg with h | h <;> cases h

theorem Lead.isFree (l : Lead) : IsFree l.text := by
  have hmarker : IsFree l.marker := by
    rcases l.marker_form with h | h | h <;> rw [h] <;> decide
  exact hmarker.append l.indent_blank.isFree

theorem Lead.not_mem (l : Lead) : 'g' ∉ l.text := by
  have hindent := not_mem_of_isIndent l.indent_blank
  unfold Lead.text
  rcases l.marker_form with h | h | h <;> simp [h, hindent]

/-! ## One gem -/

/-- From the start of a gem its name is read, and the version is looked for behind it. -/
theorem read?_entry (e : Entry) (s : Text) : read? (e.write s) =
    (readVersion? (e.writeBehind s)).map fun x => (⟨e.name.text, x.1⟩, x.2) := by
  have hkey : dropPrefix? key (e.write s) = some (e.gap ++ e.name.write (e.writeBehind s)) :=
    dropPrefix?_eq_some_iff.2 rfl
  have hgap : skipSomeBlanks? (e.gap ++ e.name.write (e.writeBehind s)) =
      some (e.name.write (e.writeBehind s)) :=
    skipSomeBlanks?_eq_some_iff.2
      ⟨e.name.isBare_write _, e.gap, ⟨e.gap_ne, e.gap_blank.mem_blanks⟩, rfl⟩
  rw [read?_eq, hkey, Option.bind_some, hgap, Option.bind_some, readNamed?,
    e.name.readQuoted?_write]
  rfl

/-- From inside a name a gem is read only at the word that ends it. -/
theorem read?_inside (ht : IsFree t) (hq : isQuote q = true) (s : Text) :
    (∃ gap ∈ someBlanks, t = key ++ gap) ∧ read? (t ++ q :: s) = readNamed? (q :: s) ∨
      (¬ ∃ gap ∈ someBlanks, t = key ++ gap) ∧ read? (t ++ q :: s) = none := by
  have hbare : IsBare (q :: s) := by
    rintro c ⟨⟩
    exact isBlank_of_isQuote hq
  rw [read?_eq, dropPrefix?_append (not_mem_key_of_isQuote hq)]
  cases hkey : dropPrefix? key t with
  | none =>
    refine .inr ⟨?_, rfl⟩
    rintro ⟨gap, -, hgap⟩
    rw [dropPrefix?_eq_some_iff.2 hgap] at hkey
    cases hkey
  | some u =>
    obtain rfl := dropPrefix?_eq_some_iff.1 hkey
    rw [Option.map_some, Option.bind_some]
    by_cases hu : u ∈ someBlanks
    · refine .inl ⟨⟨u, hu, rfl⟩, ?_⟩
      rw [skipSomeBlanks?_eq_some_iff.2 ⟨hbare, u, hu, rfl⟩, Option.bind_some]
    · refine .inr ⟨?_, ?_⟩
      · rintro ⟨gap, hgap, heq⟩
        exact hu (List.append_cancel_left heq ▸ hgap)
      cases hskip : skipSomeBlanks? (u ++ q :: s) with
      | none => rfl
      | some r =>
        have hblank : skipBlanks u ≠ [] := by
          intro hnil
          have hnone : u = [] := by
            by_contra hne
            exact hu ⟨hne, skipBlanks_eq_nil_iff.1 hnil⟩
          have hqblank := isBlank_of_isQuote hq
          simp [hnone, skipSomeBlanks?, hqblank] at hskip
        have hfree : IsFree u := ht.of_subset (List.subset_append_right key u)
        rw [Option.bind_some, eq_skipBlanks_of_skipSomeBlanks? hskip]
        exact readNamed?_of_head? (head?_skipBlanks_append hblank hfree _)

theorem all_entry_of_some (h : e.version? = some v) (ls : List Line) :
    all (e.write (behind ls)) = ⟨e.name.text, v.quoted.text⟩ :: all (behind ls) := by
  have hread : read? (e.write (behind ls)) =
      some (⟨e.name.text, v.quoted.text⟩, e.rest ++ behind ls) := by
    rw [read?_entry, Entry.writeBehind, h, Option.elim_some, v.readVersion?_write, Option.map_some]
  unfold all
  rw [findAll_of_some hread]
  exact congrArg _ (all_behind_free e.rest_free ls)

/-- A gem without a version is passed over up to its name. -/
theorem all_entry_of_none (h : e.version? = none) (ls : List Line) :
    all (e.write (behind ls)) = all (e.name.text ++ e.name.closing :: (e.rest ++ behind ls)) := by
  have hread : read? (e.write (behind ls)) = none := by
    rw [read?_entry, Entry.writeBehind, h, Option.elim_none, readVersion?_behind e.rest_free ls]
    rfl
  have hskip : 'g' ∉ 'e' :: 'm' :: (e.gap ++ [e.name.opening]) := by
    have hgap := not_mem_of_isIndent e.gap_blank
    have hopening := ne_of_isQuote (c := 'g') e.name.opening_isQuote rfl
    simp [hgap, hopening.symm]
  have hwrite : e.write (behind ls) = 'g' :: ('e' :: 'm' :: (e.gap ++ [e.name.opening]) ++
      (e.name.text ++ e.name.closing :: (e.rest ++ behind ls))) := by
    simp [Entry.write, Entry.writeBehind, h, key, Quoted.write]
  rw [hwrite] at hread ⊢
  unfold all
  rw [findAll_cons_of_none hread]
  exact all_of_not_mem hskip

/-- A name that does not end with the word is passed over, and so is one behind which no gem
begins. -/
theorem all_name_of_none (hname : IsFree name) (hq : isQuote q = true)
    (h : EndsWithKey name → readNamed? (q :: s) = none) : all (name ++ q :: s) = all s := by
  have hpassed : all (name ++ q :: s) = all (q :: s) := by
    apply findAll_skip
    intro t ht _
    rcases read?_inside (hname.of_subset ht.subset) hq s with ⟨⟨gap, hgap, rfl⟩, hread⟩ | ⟨-, hread⟩
    · exact hread.trans (h ⟨gap, hgap, ht⟩)
    · exact hread
  have hquote : 'g' ∉ [q] := by simp [(ne_of_isQuote (c := 'g') hq rfl).symm]
  rw [hpassed, ← List.singleton_append, all_of_not_mem hquote]

/-- The word at the end of a name is the last one in it, so what begins there is read. -/
theorem all_name_of_some {g : Gem} (hname : IsFree name) (hq : isQuote q = true)
    (hkey : EndsWithKey name) (h : readNamed? (q :: s) = some (g, r)) :
    all (name ++ q :: s) = g :: all r := by
  obtain ⟨gap, hgap, front, rfl⟩ := hkey
  have hskip : all (front ++ (key ++ gap ++ q :: s)) = all (key ++ gap ++ q :: s) := by
    apply findAll_skip
    intro t ht hne
    have hfree : IsFree (t ++ (key ++ gap)) :=
      (hname.of_subset fun _ hc => List.mem_append_left _ (ht.subset hc)).append
        (hname.of_subset (List.subset_append_right _ _))
    rw [← List.append_assoc]
    rcases read?_inside hfree hq s with ⟨⟨gap', hgap', heq⟩, -⟩ | ⟨-, hread⟩
    · obtain ⟨c, t, rfl⟩ := List.exists_cons_of_ne_nil hne
      have hrest : t ++ (key ++ gap) = 'e' :: 'm' :: gap' := (List.cons.inj heq).2
      have hg : 'g' ∈ 'e' :: 'm' :: gap' := by simp [← hrest, key]
      have hblank : 'g' ∈ gap' := by simpa using hg
      cases hgap'.2 'g' hblank
    · exact hread
  have hread : read? (key ++ gap ++ q :: s) = some (g, r) := by
    have hfree : IsFree (key ++ gap) := hname.of_subset (List.subset_append_right _ _)
    rcases read?_inside hfree hq s with ⟨-, hread⟩ | ⟨hnot, -⟩
    · exact hread.trans h
    · exact absurd ⟨gap, hgap, rfl⟩ hnot
  rw [List.append_assoc, hskip]
  exact findAll_of_some hread

/-! ## The gem behind another one -/

/-- Up to the name of the first gem there are no quotes, and it is on a later line. -/
theorem behind_of_cons (h : entries ls = e :: es) : ∃ front ls',
    behind ls = front ++ e.name.write (e.writeBehind (behind ls')) ∧ entries ls' = es ∧
      (∀ c ∈ front, isQuote c = false) ∧ '\n' ∈ front := by
  induction ls with
  | nil => cases h
  | cons l ls ih =>
    cases l with
    | plain text free =>
      obtain ⟨front, ls', hls, hes, hfree, -⟩ := ih h
      refine ⟨'\n' :: (text ++ front), ls', ?_, hes, ?_, List.mem_cons_self⟩
      · simp [behind, Line.write, hls]
      · refine List.forall_mem_cons.2 ⟨rfl, List.forall_mem_append.2 ⟨?_, hfree⟩⟩
        exact fun c hc => (free c hc).1
    | gem lead entry =>
      obtain ⟨rfl, hes⟩ := List.cons.inj h
      have hfree : IsFree (lead.text ++ (key ++ entry.gap)) :=
        lead.isFree.append (isFree_key.append entry.gap_blank.isFree)
      refine ⟨'\n' :: (lead.text ++ (key ++ entry.gap)), ls, ?_, hes, ?_, List.mem_cons_self⟩
      · simp [behind, Line.write, Entry.write]
      · exact List.forall_mem_cons.2 ⟨rfl, fun c hc => (hfree c hc).1⟩

theorem behind_of_nil (h : entries ls = []) : ∀ c ∈ behind ls, isQuote c = false := by
  induction ls with
  | nil => simp [behind]
  | cons l ls ih =>
    cases l with
    | plain text free =>
      refine List.forall_mem_cons.2 ⟨rfl, List.forall_mem_append.2 ⟨?_, ih h⟩⟩
      exact fun c hc => (free c hc).1
    | gem lead entry => cases h

/-- Behind the name of a gem something can be read as quoted, from the quote that ends the name,
whenever a quote is left. -/
theorem readQuoted?_writeBehind (hq : isQuote q = true) (e : Entry) (ls : List Line) :
    (readQuoted? (q :: e.writeBehind (behind ls))).isSome =
      (e.version?.isSome || !(entries ls).isEmpty) := by
  unfold Entry.writeBehind
  cases e.version? with
  | some v =>
    have hfree : IsFree (v.before ++ ',' :: v.behind) :=
      v.before_blank.isFree.append (List.forall_mem_cons.2 ⟨by decide, v.behind_blank.isFree⟩)
    have hread := readQuoted?_quoted hq (by simp) (fun c hc => (hfree c hc).1)
      v.quoted.opening_isQuote (v.quoted.text ++ v.quoted.closing :: (e.rest ++ behind ls))
    have hwrite : v.write (e.rest ++ behind ls) = v.before ++ ',' :: v.behind ++
        v.quoted.opening :: (v.quoted.text ++ v.quoted.closing :: (e.rest ++ behind ls)) := by
      simp [Version.write, Quoted.write]
    rw [Option.elim_some, hwrite, hread]
    rfl
  | none =>
    have hrest : ∀ c ∈ e.rest, isQuote c = false := fun c hc => (e.rest_free c hc).1
    cases hes : entries ls with
    | nil =>
      have hnone : readQuoted? (q :: (e.rest ++ behind ls)) = none :=
        readQuoted?_of_last (List.forall_mem_append.2 ⟨hrest, behind_of_nil hes⟩)
      rw [Option.elim_none, hnone]
      rfl
    | cons e' es =>
      obtain ⟨front, ls', hls, -, hfront, hfeed⟩ := behind_of_cons hes
      have hne : e.rest ++ front ≠ [] :=
        List.append_ne_nil_of_right_ne_nil _ (List.ne_nil_of_mem hfeed)
      have hread := readQuoted?_quoted hq hne (List.forall_mem_append.2 ⟨hrest, hfront⟩)
        e'.name.opening_isQuote (e'.name.text ++ e'.name.closing :: e'.writeBehind (behind ls'))
      rw [Option.elim_none, hls, Quoted.write, ← List.append_assoc, hread]
      rfl

/-- From the quote that ends a name, a gem is read when the next name passes for a comma, and the
name of that gem is on two lines at least. -/
theorem readNamed?_closing (hq : isQuote q = true) (hu : IsFree u) (ls : List Line) :
    (¬ StandsForComma (entries ls) ∧ readNamed? (q :: (u ++ behind ls)) = none) ∨
      StandsForComma (entries ls) ∧
        ∃ g r, readNamed? (q :: (u ++ behind ls)) = some (g, r) ∧ '\n' ∈ g.name := by
  have hfree : ∀ c ∈ u, isQuote c = false := fun c hc => (hu c hc).1
  cases hes : entries ls with
  | nil =>
    have hnone : readQuoted? (q :: (u ++ behind ls)) = none :=
      readQuoted?_of_last (List.forall_mem_append.2 ⟨hfree, behind_of_nil hes⟩)
    exact .inl ⟨id, by rw [readNamed?, hnone]; rfl⟩
  | cons e es =>
    obtain ⟨front, ls', hls, hes', hfront, hfeed⟩ := behind_of_cons hes
    have hne : u ++ front ≠ [] := List.append_ne_nil_of_right_ne_nil _ (List.ne_nil_of_mem hfeed)
    have hread := readQuoted?_quoted hq hne (List.forall_mem_append.2 ⟨hfree, hfront⟩)
      e.name.opening_isQuote (e.name.text ++ e.name.closing :: e.writeBehind (behind ls'))
    have hversion := readVersion?_name e.name.text_free e.name.closing_isQuote
      (e.writeBehind (behind ls'))
    have hquoted := readQuoted?_writeBehind e.name.closing_isQuote e ls'
    rw [hes'] at hquoted
    rw [hls, Quoted.write, ← List.append_assoc, readNamed?, hread, Option.bind_some, hversion]
    cases hsome : readQuoted? (e.name.closing :: e.writeBehind (behind ls')) with
    | none =>
      have hnot : ¬ StandsForComma (e :: es) := by
        rintro ⟨-, hsome' | hne⟩
        · simp [hsome, hsome'] at hquoted
        · simp [hsome, hne] at hquoted
      exact .inl ⟨hnot, by simp⟩
    | some x =>
      rw [hsome] at hquoted
      by_cases hcomma : IsComma e.name.text
      · refine .inr ⟨?_, ⟨u ++ front, x.1⟩, x.2, by simp [hcomma], List.mem_append_right u hfeed⟩
        simpa [StandsForComma, hcomma] using hquoted
      · exact .inl ⟨fun h => hcomma h.1, by simp [hcomma]⟩

/-! ## All gems -/

/-- From its first letter a gem adds itself if it has a version, unless it runs over. -/
theorem all_entry (e : Entry) (ls : List Line) :
    (¬ RunsOver (e :: entries ls) ∧
        all (e.write (behind ls)) = e.gem?.toList ++ all (behind ls)) ∨
      RunsOver (e :: entries ls) ∧ ∃ g ∈ all (e.write (behind ls)), '\n' ∈ g.name := by
  cases hversion : e.version? with
  | some v =>
    refine .inl ⟨fun h => ?_, ?_⟩
    · rw [RunsOver, hversion] at h
      cases h.1
    · rw [all_entry_of_some hversion ls, Entry.gem?, hversion]
      rfl
  | none =>
    have hgem : e.gem? = none := by rw [Entry.gem?, hversion, Option.map_none]
    rw [all_entry_of_none hversion ls, hgem, Option.toList_none, List.nil_append]
    have hnamed := readNamed?_closing e.name.closing_isQuote e.rest_free ls
    by_cases hover : RunsOver (e :: entries ls)
    · obtain ⟨-, hkey, hcomma⟩ := id hover
      rcases hnamed with ⟨hnot, -⟩ | ⟨-, g, r, hread, hfeed⟩
      · exact absurd hcomma hnot
      · refine .inr ⟨hover, g, ?_, hfeed⟩
        rw [all_name_of_some e.name.text_free e.name.closing_isQuote hkey hread]
        exact List.mem_cons_self
    · refine .inl ⟨hover, ?_⟩
      rw [all_name_of_none e.name.text_free e.name.closing_isQuote, all_behind_free e.rest_free]
      intro hkey
      rcases hnamed with ⟨-, hnone⟩ | ⟨hcomma, -⟩
      · exact hnone
      · exact absurd ⟨hversion, hkey, hcomma⟩ hover

theorem not_mem_name_of_mem_declared {g : Gem} (h : g ∈ declared ls) : '\n' ∉ g.name := by
  obtain ⟨e, -, hgem⟩ := List.mem_filterMap.1 h
  obtain ⟨v, -, rfl⟩ := Option.map_eq_some_iff.1 hgem
  exact fun hfeed => (e.name.text_free _ hfeed).2 rfl

/-- The gems behind the start of a text are those of the lines, unless one of them runs over. The
induction is on the lines; a gem that runs over shows in a name with a line feed. -/
theorem all_behind_iff (ls : List Line) :
    all (behind ls) = declared ls ↔ ¬ Crosses (entries ls) := by
  induction ls with
  | nil =>
    have hall : all (behind []) = [] := findAll_nil _
    simp [hall, declared, entries, Crosses, RunsOver]
  | cons l ls ih =>
    cases l with
    | plain text free =>
      have hskip : all (behind (.plain text free :: ls)) = all (behind ls) :=
        (all_of_not_mem (s := ['\n']) (by decide)).trans (all_behind_free free ls)
      rw [hskip]
      exact ih
    | gem lead e =>
      have hskip : all (behind (.gem lead e :: ls)) = all (e.write (behind ls)) :=
        (all_of_not_mem (s := ['\n']) (by decide)).trans (all_of_not_mem lead.not_mem)
      have hentries : entries (.gem lead e :: ls) = e :: entries ls := rfl
      have hdeclared : declared (.gem lead e :: ls) = e.gem?.toList ++ declared ls := by
        unfold declared
        rw [hentries]
        cases h : e.gem? <;> simp [h]
      rw [hskip, hentries, crosses_cons_iff]
      rcases all_entry e ls with ⟨hnot, hall⟩ | ⟨hover, g, hg, hfeed⟩
      · rw [hall, hdeclared, List.append_cancel_left_eq, ih]
        simp [hnot]
      · have hne : all (e.write (behind ls)) ≠ declared (.gem lead e :: ls) :=
          fun heq => not_mem_name_of_mem_declared (heq ▸ hg) hfeed
        simp [hne, hover]

/-- The line feed in front of the first line makes no difference. -/
theorem all_textOf (ls : List Line) : all (textOf ls) = all (behind ls) := by
  cases ls with
  | nil => rfl
  | cons l ls =>
    rw [textOf_cons]
    exact (all_of_not_mem (s := ['\n']) (by decide)).symm

theorem isRange_iff (g : Gem) : g.isRange = true ↔ '<' ∈ g.version ∨ '>' ∈ g.version := by
  have htilde : ['~', '>'] <:+: g.version → '>' ∈ g.version := fun h => h.subset (by decide)
  simp only [isRange, Bool.or_eq_true, contains_singleton]
  rw [contains_iff]
  tauto

end

end Gem

open Gem in
/-- Each gem with a version is found on its line and no other one is, exactly when no gem runs
over; and then the objections are to the gems with a range, in the order of the lines. -/
theorem gems_are_read_line_by_line (ls : List Line) :
    (Gem.all (textOf ls) = declared ls ↔ ¬ Crosses (entries ls)) ∧
      (¬ Crosses (entries ls) → gems (textOf ls) =
        ((declared ls).filter fun g => '<' ∈ g.version ∨ '>' ∈ g.version).map
          fun g => .gemRange g.name g.version) := by
  have hall : Gem.all (textOf ls) = declared ls ↔ ¬ Crosses (entries ls) := by
    rw [all_textOf, all_behind_iff]
  refine ⟨hall, fun h => ?_⟩
  unfold gems
  rw [hall.2 h]
  congr 1
  apply List.filter_congr
  intro g _
  rw [Bool.eq_iff_iff, isRange_iff, decide_eq_true_iff]

namespace Gem

/-- A text between single quotes. -/
def Quoted.single (text : Text) (ne : text ≠ []) (free : IsFree text) : Quoted :=
  ⟨'\'', text, '\'', rfl, rfl, ne, free⟩

/-- A line with a gem and no version. -/
def Line.bare (name : Quoted) : Line :=
  .gem ⟨[], [], .inl rfl, by decide⟩ ⟨[' '], name, none, [], by decide, by decide, by decide⟩

/-- An added line with a gem and its version. -/
def Line.added (name version : Quoted) : Line :=
  .gem ⟨['+'], [], .inr (.inl rfl), by decide⟩
    ⟨[' '], name, some ⟨[], [' '], version, by decide, by decide⟩, [], by decide, by decide,
      by decide⟩

/-- A name that ends with the word, and the comma that it takes for its own. -/
def crossed : List Line :=
  [.bare (.single "a gem ".toList (by decide) (by decide)),
    .bare (.single [','] (by decide) (by decide)),
    .plain "# > 2".toList (by decide),
    .added (.single ['b'] (by decide) (by decide)) (.single ">= 1".toList (by decide) (by decide))]

/-- The same names, with a line between them that keeps them apart. -/
def kept : List Line :=
  [.bare (.single "a gem ".toList (by decide) (by decide)),
    .added (.single ['b'] (by decide) (by decide)) (.single ">= 1".toList (by decide) (by decide)),
    .plain "# > 2".toList (by decide),
    .bare (.single [','] (by decide) (by decide)),
    .added (.single ['c'] (by decide) (by decide)) (.single ['3'] (by decide) (by decide))]

end Gem

open Gem in
theorem names_that_end_with_the_word_are_passed_over :
    ¬ Crosses (entries kept) ∧ gems (textOf kept) = [.gemRange ['b'] ">= 1".toList] := by
  have hkept : ¬ Crosses (entries kept) := by decide +kernel
  refine ⟨hkept, ?_⟩
  rw [(gems_are_read_line_by_line kept).2 hkept]
  decide +kernel

open Gem in
/-- The gem with a version goes unseen, and one that is on no line is objected to. -/
theorem a_gem_is_read_from_a_name :
    textOf crossed = "gem 'a gem '\ngem ','\n# > 2\n+gem 'b', '>= 1'".toList ∧
      declared crossed = [⟨['b'], ">= 1".toList⟩] ∧
      gems (textOf crossed) = [.gemRange "\ngem ".toList "\n# > 2\n+gem ".toList] := by
  decide +kernel

end PinGate.Check
