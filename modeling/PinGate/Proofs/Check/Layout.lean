-- Migrations as they are laid out. Line feeds are blanks like others to all that is looked for in a
-- migration but one thing: the guard of an insertion is looked for on the line on which the name of
-- its table stands.
import PinGate.Proofs.Check.Insertion

namespace PinGate.Check

open Text

/-- A space in the place of a line feed. -/
def spaceForLineFeed (c : Char) : Char := if c = '\n' then ' ' else c

/-- A text with spaces in the place of its line feeds. -/
def onOneLine (s : Text) : Text := s.map spaceForLineFeed

/-- Whether an insertion is objected to for its line feeds alone: all insertions in the block have
their guard somewhere behind them, and one does not have it on its line. -/
def HangsOnLineFeeds (content : Text) : Prop :=
  Occurs wrapper content ∧ ∃ block, IsBlock content block ∧ ¬ Occurs existenceTest block ∧
    (∃ rest, IsNameBehind Shape.insertInto.words block rest ∧
      ¬ OccursInLine insertionGuard rest) ∧
    ∀ rest, IsNameBehind Shape.insertInto.words block rest → Occurs insertionGuard rest

/-- What becomes of the report when the line feeds of a migration are made spaces. -/
structure OneLineReport (content : Text) : Prop where
  same : ¬ HangsOnLineFeeds content →
    (migration (onOneLine content)).map Finding.message = (migration content).map Finding.message
  advised : HangsOnLineFeeds content →
    Shape.insertInto.advice ∈ (migration content).map Finding.message
  excused : HangsOnLineFeeds content → (migration (onOneLine content)).map Finding.message =
    ((migration content).map Finding.message).filter (· != Shape.insertInto.advice)

/-! ## Spaces for line feeds -/

section

variable {content clean block rest s : Text} {l : Language Char} {shape : Shape}

theorem isRespacing_spaceForLineFeed : IsRespacing spaceForLineFeed := by
  constructor
  · intro c hc
    unfold spaceForLineFeed
    split
    · rfl
    · exact hc
  · intro c hc
    unfold spaceForLineFeed
    rw [if_neg]
    rintro rfl
    cases hc

theorem not_mem_onOneLine (s : Text) : '\n' ∉ onOneLine s := by
  unfold onOneLine
  rw [List.mem_map]
  rintro ⟨c, -, hc⟩
  unfold spaceForLineFeed at hc
  split at hc
  · cases hc
  · contradiction

theorem isWordChar_of_isBlank {c : Char} (hc : isBlank c = true) : isWordChar c = false := by
  rw [Bool.eq_false_iff]
  intro hword
  rw [isBlank_of_isWordChar hword] at hc
  cases hc

theorem isWordChar_eq_of_isRespacing {f : Char → Char} (hf : IsRespacing f) (c : Char) :
    isWordChar (f c) = isWordChar c := by
  cases hc : isBlank c with
  | false => rw [hf.other c hc]
  | true => rw [isWordChar_of_isBlank hc, isWordChar_of_isBlank (hf.blank c hc)]

theorem isSpaceBlind_wrapper : IsSpaceBlind wrapper := by
  have hdollars : IsSpaceBlind (verbatim ['$', '$']) := isSpaceBlind_verbatim (by decide)
  have hword : ∀ w, IsSolidWord w → IsSpaceBlind (anyCase w) := fun w => isSpaceBlind_anyCase
  have hopening : IsSpaceBlind opening :=
    (hword _ (by decide)).mul (isSpaceBlind_blanks.mul (hdollars.mul
      (isSpaceBlind_blanks.mul (hword _ (by decide)))))
  have hclosing : IsSpaceBlind closing :=
    (hword _ (by decide)).mul (isSpaceBlind_blanks.mul hdollars)
  exact hopening.mul (isSpaceBlind_top.mul hclosing)

theorem isSpaceBlind_existenceTest : IsSpaceBlind existenceTest :=
  (isSpaceBlind_phrase (by decide)).add (isSpaceBlind_phrase (by decide))

theorem isSpaceBlind_nameStart : IsSpaceBlind nameStart := by
  intro f hf t
  change (∃ c, isWordChar c = true ∧ t.map f = [c]) ↔ ∃ c, isWordChar c = true ∧ t = [c]
  constructor
  · rintro ⟨c, hc, ht⟩
    obtain ⟨d, rfl, rfl⟩ := List.map_eq_singleton_iff.1 ht
    rw [isWordChar_eq_of_isRespacing hf] at hc
    exact ⟨d, hc, rfl⟩
  · rintro ⟨c, hc, rfl⟩
    exact ⟨f c, by rwa [isWordChar_eq_of_isRespacing hf], rfl⟩

theorem isSpaceBlind_statement (shape : Shape) : IsSpaceBlind (statement shape.words) :=
  (isSpaceBlind_phrase shape.isSolidWord_words).mul
    (isSpaceBlind_someBlanks.mul isSpaceBlind_nameStart)

theorem isSpaceBlind_insertionGuard : IsSpaceBlind insertionGuard :=
  isSpaceBlind_phrase (by decide)

theorem occurs_onOneLine_iff (hl : IsSpaceBlind l) : Occurs l (onOneLine s) ↔ Occurs l s :=
  hl.occurs_map_iff isRespacing_spaceForLineFeed

theorem IsBlock.onOneLine (h : IsBlock clean block) :
    IsBlock (onOneLine clean) (onOneLine block) := by
  obtain ⟨before, rest, after, hbegin, hend⟩ := h
  exact ⟨_, _, _, hbegin.map (isSpaceBlind_anyCase (by decide)) isRespacing_spaceForLineFeed,
    hend.map (isSpaceBlind_anyCase (by decide)) isRespacing_spaceForLineFeed⟩

theorem isNameBehind_onOneLine_iff :
    IsNameBehind shape.words (onOneLine block) rest ↔
      ∃ r, onOneLine r = rest ∧ IsNameBehind shape.words block r := by
  have hblind : IsSpaceBlind (phrase shape.words * someBlanks) :=
    (isSpaceBlind_phrase shape.isSolidWord_words).mul isSpaceBlind_someBlanks
  have hname : ∀ r : Text, (∃ c ∈ (onOneLine r).head?, isWordChar c = true) ↔
      ∃ c ∈ r.head?, isWordChar c = true := by
    intro r
    cases r with
    | nil => simp [onOneLine]
    | cons c r => simp [onOneLine, isWordChar_eq_of_isRespacing isRespacing_spaceForLineFeed]
  constructor
  · rintro ⟨a, t, ht, hs, hrest⟩
    obtain ⟨a, r, rfl, rfl, t, ht, rfl⟩ :=
      (hblind.places_iff isRespacing_spaceForLineFeed).1 ⟨t, ht, hs⟩
    exact ⟨r, rfl, a, t, ht, rfl, (hname r).1 hrest⟩
  · rintro ⟨r, rfl, a, t, ht, hs, hr⟩
    obtain ⟨t', ht', hs'⟩ := (hblind.places_iff isRespacing_spaceForLineFeed).2
      ⟨a, r, rfl, rfl, t, ht, hs⟩
    exact ⟨_, t', ht', hs', (hname r).2 hr⟩

/-! ## The report on one line -/

theorem occursIn_onOneLine (hopen : ¬ Occurs existenceTest block) (hshape : shape ≠ .insertInto) :
    shape.occursIn (onOneLine block) = shape.occursIn block := by
  have hopen_line : ¬ Occurs existenceTest (onOneLine block) := by
    rwa [occurs_onOneLine_iff isSpaceBlind_existenceTest]
  rw [Bool.eq_iff_iff, Shape.occursIn_iff_occurs hopen_line hshape,
    Shape.occursIn_iff_occurs hopen hshape, occurs_onOneLine_iff (isSpaceBlind_statement shape)]

/-- On one line every guard behind an insertion is found. -/
theorem insertInto_occursIn_onOneLine_iff (hopen : ¬ Occurs existenceTest block) :
    Shape.insertInto.occursIn (onOneLine block) = true ↔
      ∃ rest, IsNameBehind Shape.insertInto.words block rest ∧ ¬ Occurs insertionGuard rest := by
  have hopen_line : ¬ Occurs existenceTest (onOneLine block) := by
    rwa [occurs_onOneLine_iff isSpaceBlind_existenceTest]
  rw [Shape.insertInto_occursIn_iff hopen_line]
  simp only [isNameBehind_onOneLine_iff]
  constructor
  · rintro ⟨_, ⟨r, rfl, hr⟩, hguard⟩
    refine ⟨r, hr, ?_⟩
    rwa [← occurs_onOneLine_iff isSpaceBlind_insertionGuard,
      ← occursInLine_iff_occurs (not_mem_onOneLine r)]
  · rintro ⟨r, hr, hguard⟩
    refine ⟨_, ⟨r, rfl, hr⟩, ?_⟩
    rw [← insertionGuard, occursInLine_iff_occurs (not_mem_onOneLine r)]
    rwa [occurs_onOneLine_iff isSpaceBlind_insertionGuard]

theorem occursIn_of_onOneLine (hopen : ¬ Occurs existenceTest block)
    (h : Shape.insertInto.occursIn (onOneLine block) = true) :
    Shape.insertInto.occursIn block = true := by
  obtain ⟨rest, hrest, hguard⟩ := (insertInto_occursIn_onOneLine_iff hopen).1 h
  rw [Shape.insertInto_occursIn_iff hopen]
  exact ⟨rest, hrest, fun hline => hguard hline.occurs⟩

theorem advices_onOneLine_of_eq (hopen : ¬ Occurs existenceTest block)
    (h : Shape.insertInto.occursIn (onOneLine block) = Shape.insertInto.occursIn block) :
    advices (onOneLine block) = advices block := by
  have hall : ∀ shape ∈ shapes,
      Shape.occursIn shape (onOneLine block) = Shape.occursIn shape block := by
    intro shape _
    by_cases hshape : shape = .insertInto
    · rw [hshape, h]
    · exact occursIn_onOneLine hopen hshape
  unfold advices
  rw [List.filter_congr hall]

theorem advice_ne_iff : shape.advice ≠ Shape.insertInto.advice ↔ shape ≠ .insertInto := by
  refine not_congr ⟨?_, congrArg Shape.advice⟩
  exact List.inj_on_of_nodup_map advice_nodup (mem_shapes shape) (mem_shapes .insertInto)

theorem advices_onOneLine_of_excused (hopen : ¬ Occurs existenceTest block)
    (h : Shape.insertInto.occursIn (onOneLine block) = false) :
    advices (onOneLine block) = (advices block).filter (· != Shape.insertInto.advice) := by
  unfold advices
  rw [List.filter_map, List.filter_filter]
  refine congrArg _ (List.filter_congr fun shape _ => ?_)
  by_cases hshape : shape = .insertInto
  · rw [hshape, h]
    simp
  · have hadvice := advice_ne_iff.2 hshape
    simp [occursIn_onOneLine hopen hshape, hadvice]

theorem hangsOnLineFeeds_iff (hwrapped : Occurs wrapper content) (hblock : IsBlock content block) :
    HangsOnLineFeeds content ↔ ¬ Occurs existenceTest block ∧
      Shape.insertInto.occursIn block = true ∧
      Shape.insertInto.occursIn (onOneLine block) = false := by
  have hexcused : ¬ Occurs existenceTest block →
      (Shape.insertInto.occursIn (onOneLine block) = false ↔
        ∀ rest, IsNameBehind Shape.insertInto.words block rest → Occurs insertionGuard rest) := by
    intro hopen
    rw [Bool.eq_false_iff, Ne, insertInto_occursIn_onOneLine_iff hopen]
    push Not
    rfl
  constructor
  · rintro ⟨-, block', hblock', hopen, hline, hall⟩
    obtain rfl : block' = block := by
      rw [← block?_eq_some_iff] at hblock hblock'
      exact Option.some.inj (hblock'.symm.trans hblock)
    exact ⟨hopen, (Shape.insertInto_occursIn_iff hopen).2 hline, (hexcused hopen).2 hall⟩
  · rintro ⟨hopen, hline, hall⟩
    exact ⟨hwrapped, block, hblock, hopen, (Shape.insertInto_occursIn_iff hopen).1 hline,
      (hexcused hopen).1 hall⟩

theorem not_mem_onOneLine_of_not_mem (h : '+' ∉ s) : '+' ∉ onOneLine s := by
  unfold onOneLine
  rw [List.mem_map]
  rintro ⟨c, hc, heq⟩
  unfold spaceForLineFeed at heq
  split at heq
  · cases heq
  · exact h (heq ▸ hc)

theorem OneLineReport.of_same (hnot : ¬ HangsOnLineFeeds content)
    (h : (migration (onOneLine content)).map Finding.message =
      (migration content).map Finding.message) : OneLineReport content where
  same _ := h
  advised hangs := absurd hangs hnot
  excused hangs := absurd hangs hnot

theorem oneLineReport (h : '+' ∉ content) : OneLineReport content := by
  have hclean := stripMarkers_of_not_mem h
  have hclean_line := stripMarkers_of_not_mem (not_mem_onOneLine_of_not_mem h)
  by_cases hwrapped : Occurs wrapper content
  · have hwrapped_line := (occurs_onOneLine_iff isSpaceBlind_wrapper).2 hwrapped
    obtain ⟨block, hblock⟩ := exists_isBlock hwrapped
    have hhangs := hangsOnLineFeeds_iff hwrapped hblock
    have hmessages : (migration content).map Finding.message = _ :=
      messages_of_block (by rwa [hclean]) (by rwa [hclean])
    have hmessages_line : (migration (onOneLine content)).map Finding.message = _ :=
      messages_of_block (by rwa [hclean_line]) (by rw [hclean_line]; exact hblock.onOneLine)
    have hguarded : isGuarded (onOneLine block) = isGuarded block := by
      rw [Bool.eq_iff_iff, isGuarded_iff, isGuarded_iff,
        occurs_onOneLine_iff isSpaceBlind_existenceTest]
    rw [hguarded] at hmessages_line
    by_cases hopen : Occurs existenceTest block
    · rw [if_pos (isGuarded_iff.2 hopen)] at hmessages hmessages_line
      refine .of_same (fun hangs => (hhangs.1 hangs).1 hopen) ?_
      rw [hmessages, hmessages_line]
    · rw [if_neg (by rwa [isGuarded_iff])] at hmessages hmessages_line
      by_cases hangs : HangsOnLineFeeds content
      · obtain ⟨-, hoccurs, hline⟩ := hhangs.1 hangs
        constructor
        · intro hnot
          exact absurd hangs hnot
        · intro _
          rw [hmessages, mem_advices_iff]
          exact hoccurs
        · intro _
          rw [hmessages, hmessages_line, advices_onOneLine_of_excused hopen hline]
      · have hsame : Shape.insertInto.occursIn (onOneLine block) =
            Shape.insertInto.occursIn block := by
          rw [Bool.eq_iff_iff]
          refine ⟨occursIn_of_onOneLine hopen, fun hoccurs => ?_⟩
          by_contra hline
          exact hangs (hhangs.2 ⟨hopen, hoccurs, Bool.eq_false_iff.2 hline⟩)
        refine .of_same hangs ?_
        rw [hmessages, hmessages_line, advices_onOneLine_of_eq hopen hsame]
  · have hwrapped_line : ¬ Occurs wrapper (onOneLine content) := by
      rwa [occurs_onOneLine_iff isSpaceBlind_wrapper]
    refine .of_same (fun hangs => hwrapped hangs.1) ?_
    rw [← hclean] at hwrapped
    rw [← hclean_line] at hwrapped_line
    rw [messages_of_unwrapped hwrapped, messages_of_unwrapped hwrapped_line]

end

/-- A guarded insertion is objected to when a line feed stands between the name of its table and
its guard, and else it is not; and the report of a migration is the same with spaces for its line
feeds, but for the advice about insertions where that hangs on them. -/
theorem insertions_are_judged_by_their_layout (i : GuardedInsertion) (content : Text) :
    (stripMarkers content = wrapped i.text →
      i.FollowsLayout ((migration content).map Finding.message)) ∧
    ('+' ∉ content → OneLineReport content) :=
  ⟨i.followsLayout, oneLineReport⟩

/-- An insertion with its guard on the second line. -/
def twoLineInsertion : GuardedInsertion where
  table := "t".toList
  columns := "a".toList
  values := "1".toList
  query := "SELECT 1 FROM t".toList
  opening := "INSERT INTO ".toList
  target := "t (a)\nSELECT 1 ".toList
  guard := "WHERE NOT EXISTS (SELECT 1 FROM t);".toList
  table_whole := by decide
  values_whole := by decide
  harmless := by decide
  opening_laid := by
    have hspace : [' '] ∈ someBlanks := singleton_mem_someBlanks rfl
    exact ⟨"INSERT INTO".toList, ⟨_, rfl, _, ⟨_, hspace, _, rfl, rfl⟩, rfl⟩, _, hspace, rfl⟩
  target_laid := by
    have hspace : [' '] ∈ someBlanks := singleton_mem_someBlanks rfl
    have hvalues : "SELECT 1".toList ∈ spaced ["SELECT".toList, ['1']] :=
      ⟨_, rfl, _, ⟨_, hspace, _, rfl, rfl⟩, rfl⟩
    exact ⟨"t (a)\nSELECT 1".toList, ⟨_, rfl, _, ⟨_, hspace, _, ⟨"(a)".toList, rfl, _,
      ⟨['\n'], singleton_mem_someBlanks rfl, _, hvalues, rfl⟩, rfl⟩, rfl⟩, rfl⟩, _, hspace, rfl⟩
  guard_laid := by
    have hspace : [' '] ∈ someBlanks := singleton_mem_someBlanks rfl
    exact ⟨_, rfl, _, ⟨_, hspace, _, ⟨_, rfl, _, ⟨_, hspace, _, ⟨_, rfl, _,
      ⟨_, hspace, _, rfl, rfl⟩, rfl⟩, rfl⟩, rfl⟩, rfl⟩, rfl⟩

/-- On two lines the guard is not found, and on one line it is. -/
theorem a_guard_on_the_second_line_is_not_found :
    let content := wrapped twoLineInsertion.text
    (migration content).map Finding.message = [Shape.insertInto.advice] ∧
      HangsOnLineFeeds content ∧ (migration (onOneLine content)).map Finding.message = [] := by
  intro content
  obtain ⟨hlayout, hfeeds⟩ := insertions_are_judged_by_their_layout twoLineInsertion content
  have hbroken : (migration content).map Finding.message = [Shape.insertInto.advice] := by
    apply (hlayout (by decide +kernel)).broken (by decide)
    rintro (hname | htest | hguard)
    · exact hname ⟨'t', rfl, by decide +kernel⟩
    · rw [← isGuarded_iff] at htest
      revert htest
      decide +kernel
    · rw [insertionGuard, ← anyPhrase_singleton,
        ← somewhereInLine_beginsPhrase_iff (by decide)] at hguard
      revert hguard
      decide +kernel
  have hline : (migration (onOneLine content)).map Finding.message = [] := by decide +kernel
  have hangs : HangsOnLineFeeds content := by
    by_contra hnot
    have hsame := (hfeeds (by decide)).same hnot
    rw [hbroken, hline] at hsame
    cases hsame
  exact ⟨hbroken, hangs, hline⟩

end PinGate.Check
