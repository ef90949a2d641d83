-- Insertions that carry a guard of their own. Such a statement is objected to for its layout: the
-- guard is looked for on the line on which the name of the table stands, so it counts when nothing
-- between the two breaks the line, and else it does not.
import PinGate.Proofs.Check.Block
import PinGate.Proofs.Text.Spacing

namespace PinGate.Check

open Text

/-- The words that guard an insertion. -/
def insertionGuard : Language Char := phrase ["WHERE".toList, "NOT".toList, "EXISTS".toList]

/-- Whether a part of a statement holds no letters that end a block, and no words that start a
statement. -/
structure IsHarmless (s : Text) : Prop where
  no_end : ¬ Occurs (anyCase "END".toList) s
  no_words : ∀ shape : Shape, ¬ Occurs (phrase shape.words) s

/-- The statement `INSERT INTO table (columns) SELECT values WHERE NOT EXISTS (query);` with any
blanks between its words, cut in front of the name of the table and in front of the guard. -/
structure GuardedInsertion where
  table : Text
  columns : Text
  values : Text
  query : Text
  opening : Text
  target : Text
  guard : Text
  table_whole : IsWhole table
  values_whole : IsWhole values
  harmless : ∀ s ∈ [table, columns, values, query], IsHarmless s
  opening_laid : opening ∈ spaced ["INSERT".toList, "INTO".toList] * someBlanks
  target_laid :
    target ∈ spaced [table, '(' :: (columns ++ [')']), "SELECT".toList, values] * someBlanks
  guard_laid : guard ∈
    spaced ["WHERE".toList, "NOT".toList, "EXISTS".toList, '(' :: (query ++ ");".toList)]

theorem isHarmless_iff {s : Text} : IsHarmless s ↔
    ¬ somewhere (beginsPhrase (["END".toList] :: shapes.map Shape.words)) s = true := by
  rw [somewhere_beginsPhrase_iff (by decide)]
  constructor
  · rintro ⟨hend, hwords⟩ ⟨t, ⟨p, hp, ht⟩, hts⟩
    rcases List.mem_cons.1 hp with rfl | hp
    · exact hend ⟨t, ht, hts⟩
    · obtain ⟨shape, -, rfl⟩ := List.mem_map.1 hp
      exact hwords shape ⟨t, ht, hts⟩
  · intro h
    constructor
    · rintro ⟨t, ht, hts⟩
      exact h ⟨t, ⟨_, List.mem_cons_self, ht⟩, hts⟩
    · rintro shape ⟨t, ht, hts⟩
      refine h ⟨t, ⟨shape.words, List.mem_cons_of_mem _ ?_, ht⟩, hts⟩
      exact List.mem_map_of_mem (mem_shapes shape)

instance : DecidablePred IsHarmless := fun _ => decidable_of_iff' _ isHarmless_iff

theorem Shape.isSolidWord_words (shape : Shape) : ∀ w ∈ shape.words, IsSolidWord w := by
  cases shape <;> decide

namespace GuardedInsertion

variable (i : GuardedInsertion)

/-- The statement itself. -/
def text : Text := i.opening ++ (i.target ++ i.guard)

/-- Whether the name of the table starts with a character of a name. -/
def IsNamed : Prop := ∃ c ∈ i.table.head?, isWordChar c = true

/-- Whether something else than the guard keeps the statement from being objected to. -/
def IsExcused : Prop :=
  ¬ i.IsNamed ∨ Occurs existenceTest i.text ∨ OccursInLine insertionGuard i.target

/-- What is said about a guarded insertion. -/
structure FollowsLayout (messages : List Text) : Prop where
  on_one_line : '\n' ∉ i.target → messages = []
  excused : i.IsExcused → messages = []
  broken : '\n' ∈ i.target → ¬ i.IsExcused → messages = [Shape.insertInto.advice]

/-! ## The words of the statement -/

/-- The words behind the first one. -/
def furtherWords : List Text :=
  ["INTO".toList, i.table, '(' :: (i.columns ++ [')']), "SELECT".toList, i.values, "WHERE".toList,
   "NOT".toList, "EXISTS".toList, '(' :: (i.query ++ ");".toList)]

/-- The words that are the same in all such statements, without the first one. -/
def fixedWords : List Text :=
  ["INTO".toList, "SELECT".toList, "WHERE".toList, "NOT".toList, "EXISTS".toList]

/-- A first word in front of the others, laid out as in the statement. -/
theorem exists_behind_first : ∃ g ∈ someBlanks, ∃ r ∈ spaced i.furtherWords,
    i.text = "INSERT".toList ++ (g ++ r) := by
  obtain ⟨_, ⟨_, rfl, _, ⟨g, hg, _, rfl, rfl⟩, rfl⟩, g', hg', ho⟩ := i.opening_laid
  have hlater := append_mem_spaced (by simp) (by simp) i.target_laid i.guard_laid
  have hinto : "INTO".toList ++ g' ∈ spaced ["INTO".toList] * someBlanks :=
    ⟨_, rfl, g', hg', rfl⟩
  refine ⟨g, hg, _, append_mem_spaced (by simp) (by simp) hinto hlater, ?_⟩
  unfold text
  rw [← ho]
  simp

theorem furtherWords_whole : ∀ w ∈ i.furtherWords, IsWhole w := by
  have hquery : '(' :: (i.query ++ ");".toList) = '(' :: (i.query ++ [')'] ++ [';']) := by simp
  simp only [furtherWords, List.forall_mem_cons, hquery]
  exact ⟨by decide, i.table_whole, isWhole_of_ends rfl rfl _, by decide, i.values_whole, by decide,
    by decide, by decide, isWhole_of_ends rfl rfl _, by simp⟩

/-- What stands between signs that are in no word of a phrase. -/
theorem not_occurs_parens {ws : List Text} (hne : ws ≠ []) (hws : ∀ w ∈ ws, IsSolidWord w)
    (hsigns : ∀ c ∈ "();".toList, ∀ w ∈ ws, IsForeign w c) {s e : Text}
    (hs : ¬ Occurs (phrase ws) s) (he : e ⊆ "();".toList) :
    ¬ Occurs (phrase ws) ('(' :: (s ++ ')' :: e)) := by
  have hblank : ∀ c ∈ "();".toList, isBlank c = false := by decide
  intro h
  rcases Occurs.of_append_cons (a := []) (by decide) (hsigns '(' (by decide)) h with h | h
  · exact not_occurs_phrase_nil hne hws h
  rcases h.of_append_cons (by decide) (hsigns ')' (by decide)) with h | h
  · exact hs h
  · exact not_occurs_of_foreign hne hws (fun c hc => ⟨hblank c (he hc), hsigns c (he hc)⟩) h

theorem furtherWords_free {ws : List Text} (hne : ws ≠ []) (hws : ∀ w ∈ ws, IsSolidWord w)
    (hsigns : ∀ c ∈ "();".toList, ∀ w ∈ ws, IsForeign w c)
    (hfixed : ∀ w ∈ fixedWords, ¬ Occurs (phrase ws) w)
    (hparts : ∀ s ∈ [i.table, i.columns, i.values, i.query], ¬ Occurs (phrase ws) s) :
    ∀ w ∈ i.furtherWords, ¬ Occurs (phrase ws) w := by
  simp only [fixedWords, List.forall_mem_cons] at hfixed hparts
  obtain ⟨hinto, hselect, hwhere, hnot, hexists, -⟩ := hfixed
  obtain ⟨htable, hcolumns, hvalues, hquery, -⟩ := hparts
  simp only [furtherWords, List.forall_mem_cons]
  exact ⟨hinto, htable, not_occurs_parens hne hws hsigns hcolumns (List.nil_subset _), hselect,
    hvalues, hwhere, hnot, hexists, not_occurs_parens hne hws hsigns hquery (by decide), by simp⟩

/-- Behind the first word no words that start a statement go from one word into the next. -/
theorem furtherWords_chain (shape : Shape) :
    i.furtherWords.IsChain (NoBridge shape.words) := by
  unfold furtherWords
  simp only [List.isChain_cons_cons]
  cases shape
  all_goals
    simp only [Shape.words, noBridge_pair_iff]
    exact ⟨.inl rfl, .inr rfl, .inr rfl, .inl rfl, .inr rfl, .inl rfl, .inl rfl, .inl rfl,
      .singleton _⟩

variable {i} {g r first : Text}

/-- A phrase that stands in none of the words, and bridges no gap, does not stand in the row. -/
theorem not_occurs_behind {ws : List Text} (hne : ws ≠ []) (hws : ∀ w ∈ ws, IsSolidWord w)
    (hwhole : IsWhole first) (hfree : ∀ w ∈ first :: i.furtherWords, ¬ Occurs (phrase ws) w)
    (hbridge : (first :: i.furtherWords).IsChain (NoBridge ws)) (hg : g ∈ someBlanks)
    (hr : r ∈ spaced i.furtherWords) : ¬ Occurs (phrase ws) (first ++ (g ++ r)) :=
  not_occurs_of_spaced hne hws (List.forall_mem_cons.2 ⟨hwhole, i.furtherWords_whole⟩) hfree
    hbridge ⟨_, rfl, _, ⟨g, hg, r, hr, rfl⟩, rfl⟩

theorem no_end_behind_first (hg : g ∈ someBlanks) (hr : r ∈ spaced i.furtherWords) :
    ¬ Occurs (anyCase "END".toList) ("INSERT".toList ++ (g ++ r)) := by
  have hws : ∀ w ∈ ["END".toList], IsSolidWord w := by decide
  have hfixed : ∀ w ∈ "INSERT".toList :: fixedWords, ¬ Occurs (phrase ["END".toList]) w := by
    intro w hw
    rw [← (recognises_dropPhrase (by decide)).somewhere_iff]
    revert w
    decide
  rw [List.forall_mem_cons] at hfixed
  have hfurther := i.furtherWords_free (by simp) hws (by decide) hfixed.2
    fun s hs => (i.harmless s hs).no_end
  exact not_occurs_behind (by simp) hws (by decide)
    (List.forall_mem_cons.2 ⟨hfixed.1, hfurther⟩)
    (List.pairwise_of_forall fun _ _ => noBridge_singleton).isChain hg hr

theorem no_words_behind_first {shape : Shape} (hwhole : IsWhole first)
    (hfree : ¬ Occurs (phrase shape.words) first)
    (hbridge : NoBridge shape.words first "INTO".toList) (hg : g ∈ someBlanks)
    (hr : r ∈ spaced i.furtherWords) : ¬ Occurs (phrase shape.words) (first ++ (g ++ r)) := by
  have hws := shape.isSolidWord_words
  have hne : shape.words ≠ [] := by cases shape <;> decide
  have hfixed : ∀ w ∈ fixedWords, ¬ Occurs (phrase shape.words) w := by
    intro w hw
    rw [← (recognises_dropPhrase shape.isSolid_words).somewhere_iff]
    revert w
    cases shape <;> decide
  have hfurther := i.furtherWords_free hne hws (by cases shape <;> decide) hfixed
    fun s hs => (i.harmless s hs).no_words shape
  exact not_occurs_behind hne hws hwhole (List.forall_mem_cons.2 ⟨hfree, hfurther⟩)
    (List.isChain_cons_cons.2 ⟨hbridge, i.furtherWords_chain shape⟩) hg hr

/-! ## The block -/

/-- What stands between the two words of the block. -/
def block (i : GuardedInsertion) : Text := ' ' :: (i.text ++ [' '])

theorem isBlock_wrapped (i : GuardedInsertion) : IsBlock (wrapped i.text) i.block := by
  obtain ⟨g, hg, r, hr, htext⟩ := i.exists_behind_first
  apply isBlock_of_no_end
  rw [htext]
  exact no_end_behind_first hg hr

theorem occurs_block_iff {l : Language Char} (hl : IsFirm l) (hl_reverse : IsFirm l.reverse) :
    Occurs l i.block ↔ Occurs l i.text := by
  rw [block, occurs_cons_iff hl (by decide), occurs_concat_iff hl_reverse (by decide)]

theorem no_other_shape {shape : Shape} (hshape : shape ≠ .insertInto) :
    ¬ Occurs (statement shape.words) i.block := by
  obtain ⟨g, hg, r, hr, htext⟩ := i.exists_behind_first
  obtain ⟨hfirm, hfirm_reverse⟩ := isFirm_statement shape
  rw [occurs_block_iff hfirm hfirm_reverse, htext]
  intro h
  refine no_words_behind_first (by decide) ?_ ?_ hg hr h.of_mul_left
  · rw [← (recognises_dropPhrase shape.isSolid_words).somewhere_iff]
    cases shape <;> decide
  · cases shape
    case insertInto => exact absurd rfl hshape
    all_goals exact noBridge_pair_iff.2 (.inl rfl)

/-- The words up to the guard begin with the name of the table, and a gap stands behind them. -/
theorem exists_target (i : GuardedInsertion) : ∃ body, ∃ gap ∈ someBlanks,
    i.target = body ++ gap ∧ IsBare body.reverse ∧ ∃ r, body = i.table ++ r := by
  obtain ⟨body, hbody, gap, hgap, htarget⟩ := i.target_laid
  have hwhole : ∀ w ∈ [i.table, '(' :: (i.columns ++ [')']), "SELECT".toList, i.values],
      IsWhole w := by
    intro w hw
    apply i.furtherWords_whole
    simp only [furtherWords, List.mem_cons, List.not_mem_nil, or_false] at hw ⊢
    tauto
  refine ⟨body, gap, hgap, htarget.symm, isBare_reverse_spaced hwhole hbody, ?_⟩
  rcases spaced_cons hbody with rfl | ⟨c, r, -, rfl⟩
  · exact ⟨[], (List.append_nil _).symm⟩
  · exact ⟨c :: r, rfl⟩

theorem exists_target_eq (i : GuardedInsertion) : ∃ r, i.target = i.table ++ r := by
  obtain ⟨_, gap, -, htarget, -, r, rfl⟩ := i.exists_target
  exact ⟨r ++ gap, htarget.trans (List.append_assoc _ _ _)⟩

theorem isBare_target (i : GuardedInsertion) (b : Text) : IsBare (i.target ++ b) := by
  obtain ⟨r, hr⟩ := i.exists_target_eq
  rw [hr, List.append_assoc]
  exact i.table_whole.bare.append i.table_whole.ne_nil _

theorem opening_mem (i : GuardedInsertion) :
    i.opening ∈ phrase Shape.insertInto.words * someBlanks := by
  obtain ⟨words, hwords, gap, hgap, hopening⟩ := i.opening_laid
  exact ⟨words, mem_phrase_of_spaced hwords, gap, hgap, hopening⟩

theorem isNamed_iff {b : Text} :
    (∃ c ∈ (i.target ++ b).head?, isWordChar c = true) ↔ i.IsNamed := by
  obtain ⟨r, hr⟩ := i.exists_target_eq
  rw [hr, List.append_assoc, List.head?_append_of_ne_nil _ i.table_whole.ne_nil]
  rfl

/-- The words of an insertion stand in the block but once. -/
theorem eq_opening {a t rest : Text} (ht : t ∈ phrase Shape.insertInto.words * someBlanks)
    (hs : a ++ (t ++ rest) = i.block) : t ++ rest = i.text ++ [' '] := by
  obtain ⟨hne, hbare⟩ := (isFirm_phrase (by decide)).mul _ t ht
  unfold block at hs
  cases a with
  | nil =>
    obtain ⟨c, t, rfl⟩ := List.exists_cons_of_ne_nil hne
    obtain ⟨rfl, -⟩ := List.cons.inj hs
    cases hbare ' ' rfl
  | cons c a =>
    obtain ⟨rfl, hrest⟩ := List.cons.inj hs
    cases a with
    | nil => exact hrest
    | cons d a =>
      obtain ⟨g, hg, r, hr, htext⟩ := i.exists_behind_first
      rw [htext] at hrest
      obtain ⟨rfl, hbehind⟩ :
          d = 'I' ∧ a ++ (t ++ rest) = "NSERT".toList ++ (g ++ r) ++ [' '] := List.cons.inj hrest
      have hoccurs : Occurs (phrase Shape.insertInto.words)
          ("NSERT".toList ++ (g ++ r) ++ [' ']) := by
        apply Occurs.of_mul_left (m := someBlanks)
        exact ⟨t, ht, a, rest, by rw [List.append_assoc, hbehind]⟩
      rw [occurs_concat_iff (isFirm_phrase_reverse (by decide) (by decide)) (by decide)] at hoccurs
      refine absurd hoccurs (no_words_behind_first (by decide) ?_ ?_ hg hr)
      · rw [← (recognises_dropPhrase (by decide)).somewhere_iff]
        decide
      · exact noBridge_pair_iff.2 (.inl rfl)

/-- The one insertion in the block is the statement, and what stands behind its words begins with
the name of the table. -/
theorem isNameBehind_iff {rest : Text} : IsNameBehind Shape.insertInto.words i.block rest ↔
    i.IsNamed ∧ rest = i.target ++ (i.guard ++ [' ']) := by
  have hopening := i.opening_mem
  have htext : i.text ++ [' '] = i.opening ++ (i.target ++ (i.guard ++ [' '])) := by simp [text]
  constructor
  · rintro ⟨a, t, ht, hs, c, hc, hword⟩
    have hrest := eq_opening ht hs
    have hbare : IsBare rest := by
      intro d hd
      obtain rfl : c = d := Option.mem_unique hc hd
      exact isBlank_of_isWordChar hword
    have heq : some rest = some (i.target ++ (i.guard ++ [' '])) := by
      rw [← Shape.drop_words_eq_some_iff.2 ⟨hbare, t, ht, hrest⟩, htext]
      exact Shape.drop_words_eq_some_iff.2 ⟨i.isBare_target _, i.opening, hopening, rfl⟩
    obtain rfl := Option.some.inj heq
    exact ⟨isNamed_iff.1 ⟨c, hc, hword⟩, rfl⟩
  · rintro ⟨hnamed, rfl⟩
    refine ⟨[' '], i.opening, hopening, ?_, isNamed_iff.2 hnamed⟩
    rw [← htext]
    rfl

/-! ## The guard -/

theorem exists_guard (i : GuardedInsertion) : ∃ t ∈ insertionGuard, ∃ r, i.guard = t ++ r := by
  obtain ⟨_, rfl, _, ⟨g, hg, _, ⟨_, rfl, _, ⟨g', hg', _, ⟨_, rfl, r, -, rfl⟩, rfl⟩, rfl⟩, rfl⟩,
    hguard⟩ := i.guard_laid
  refine ⟨_, ⟨_, mem_anyCase_self _, _, ⟨g, hg, _, ⟨_, mem_anyCase_self _, _,
    ⟨g', hg', _, mem_anyCase_self _, rfl⟩, rfl⟩, rfl⟩, rfl⟩, r, ?_⟩
  rw [← hguard]
  simp

theorem guard_head (i : GuardedInsertion) : ∃ r, i.guard = 'W' :: r := by
  obtain ⟨_, rfl, r, -, hguard⟩ := i.guard_laid
  exact ⟨_, hguard.symm⟩

/-- The words of the guard that begin in the target end in it: the guard begins with the first of
them and not with a later one. -/
theorem prefix_of_guard_words {a t u e : Text} (ht : t ∈ insertionGuard)
    (htarget : a ++ u = i.target) (hu : u ≠ []) (hbegins : t <+: u ++ (i.guard ++ e)) :
    t <+: u := by
  obtain ⟨body, gap, hgap, hsplit, hback, -⟩ := i.exists_target
  obtain ⟨r, hguard⟩ := i.guard_head
  rw [hsplit] at htarget
  rcases List.append_eq_append_iff.1 htarget with ⟨u', rfl, rfl⟩ | ⟨g, rfl, rfl⟩
  · rw [List.append_assoc] at hbegins
    refine (prefix_of_noBridge (by decide) hgap ?_ ?_ ?_ ht hbegins).trans
      (List.prefix_append u' gap)
    · rw [hguard]
      rintro c ⟨⟩
      rfl
    · rw [List.reverse_append] at hback
      exact hback.of_append
    · rw [hguard]
      apply NoBridge.of_front
      simp only [List.tail_cons, List.forall_mem_cons]
      exact ⟨rfl, rfl, by simp⟩
  · -- No words begin with a blank of the gap.
    obtain ⟨c, u, rfl⟩ := List.exists_cons_of_ne_nil hu
    obtain ⟨hne, hbare⟩ := isFirm_phrase (by decide) t ht
    obtain ⟨d, t, rfl⟩ := List.exists_cons_of_ne_nil hne
    obtain ⟨rfl, -⟩ := List.cons_prefix_cons.1 hbegins
    have hblank := hgap.2 d (by simp)
    rw [hbare d rfl] at hblank
    cases hblank

/-- The guard counts when nothing between the name of the table and the guard breaks the line. -/
theorem occursInLine_guard_iff {e : Text} :
    OccursInLine insertionGuard (i.target ++ (i.guard ++ e)) ↔
      '\n' ∉ i.target ∨ OccursInLine insertionGuard i.target := by
  constructor
  · rintro ⟨a, t, b, hs, ha, ht⟩
    by_cases hbreak : '\n' ∈ i.target
    · right
      have hbefore : a <+: i.target := by
        rcases List.prefix_or_prefix_of_prefix (List.prefix_append a (t ++ b))
          (hs ▸ List.prefix_append i.target _) with h | h
        · exact h
        · exact absurd (h.subset hbreak) ha
      obtain ⟨u, htarget⟩ := hbefore
      have hu : u ≠ [] := by
        rintro rfl
        rw [← htarget, List.append_nil] at hbreak
        exact ha hbreak
      rw [← htarget, List.append_assoc] at hs
      obtain ⟨r, hr⟩ := prefix_of_guard_words ht htarget hu ⟨b, List.append_cancel_left hs⟩
      exact ⟨a, t, r, by rw [hr, htarget], ha, ht⟩
    · exact .inl hbreak
  · rintro (hbreak | ⟨a, t, b, hs, ha, ht⟩)
    · obtain ⟨t, ht, r, hguard⟩ := i.exists_guard
      exact ⟨i.target, t, r ++ e, by rw [hguard, List.append_assoc], hbreak, ht⟩
    · exact ⟨a, t, b ++ (i.guard ++ e), by rw [← hs]; simp, ha, ht⟩

/-! ## The report -/

theorem insertInto_occursIn_block_iff (hopen : ¬ Occurs existenceTest i.block) :
    Shape.insertInto.occursIn i.block = true ↔ '\n' ∈ i.target ∧ ¬ i.IsExcused := by
  have hopen_text : ¬ Occurs existenceTest i.text := by
    rwa [← occurs_block_iff isFirm_existenceTest.1 isFirm_existenceTest.2]
  rw [Shape.insertInto_occursIn_iff hopen]
  simp only [isNameBehind_iff, IsExcused, and_assoc, exists_and_left, exists_eq_left]
  rw [← insertionGuard, occursInLine_guard_iff]
  tauto

theorem advices_block (hopen : ¬ Occurs existenceTest i.block) : advices i.block =
    if Shape.insertInto.occursIn i.block then [Shape.insertInto.advice] else [] := by
  have hother : ∀ shape : Shape, shape ≠ .insertInto → shape.occursIn i.block = false := by
    intro shape hshape
    rw [Bool.eq_false_iff, Ne, Shape.occursIn_iff_occurs hopen hshape]
    exact no_other_shape hshape
  have hcreate := hother .createTable (by decide)
  have halter := hother .alterTable (by decide)
  have hdrop := hother .dropTable (by decide)
  cases hinsert : Shape.insertInto.occursIn i.block <;>
    simp [advices, shapes, hcreate, halter, hdrop, hinsert]

theorem followsLayout {content : Text} (h : stripMarkers content = wrapped i.text) :
    i.FollowsLayout ((migration content).map Finding.message) := by
  have hwrapped : Occurs wrapper (stripMarkers content) := by
    rw [h, ← isWrapped_iff]
    exact isWrapped_wrapped i.text
  have hblock : IsBlock (stripMarkers content) i.block := by
    rw [h]
    exact i.isBlock_wrapped
  rw [messages_of_block hwrapped hblock]
  by_cases hopen : Occurs existenceTest i.block
  · rw [if_pos (isGuarded_iff.2 hopen)]
    have hexcused : i.IsExcused := by
      right
      left
      rwa [← occurs_block_iff isFirm_existenceTest.1 isFirm_existenceTest.2]
    exact ⟨fun _ => rfl, fun _ => rfl, fun _ hnot => absurd hexcused hnot⟩
  · rw [if_neg (by rwa [isGuarded_iff]), advices_block hopen]
    have hinsert := insertInto_occursIn_block_iff hopen
    constructor
    · intro hbreak
      rw [if_neg fun hoccurs => hbreak (hinsert.1 hoccurs).1]
    · intro hexcused
      rw [if_neg fun hoccurs => (hinsert.1 hoccurs).2 hexcused]
    · intro hbreak hexcused
      rw [if_pos (hinsert.2 ⟨hbreak, hexcused⟩)]

end GuardedInsertion

end PinGate.Check
