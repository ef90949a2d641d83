-- What is objected to in a migration, in full: without a wrapper nothing but that; with one, the
-- block between its first two words is looked at, and unless existence is tested in it the four
-- shapes of statement are told by their words alone. Only an insertion can be excused on its line.
import PinGate.Check.Migration
import PinGate.Proofs.Text.Words

namespace PinGate.Check

open Text

/-! ## The languages of a migration -/

def opening : Language Char :=
  anyCase "DO".toList * (blanks * (verbatim ['$', '$'] * (blanks * anyCase "BEGIN".toList)))

def closing : Language Char := anyCase "END".toList * (blanks * verbatim ['$', '$'])

/-- A block that is opened, and closed anywhere behind that. -/
def wrapper : Language Char := opening * (⊤ * closing)

/-- Whether a text stands between the first `BEGIN` and the first `END` behind it. -/
def IsBlock (clean block : Text) : Prop :=
  ∃ before rest after, IsFirst (anyCase "BEGIN".toList) clean before rest ∧
    IsFirst (anyCase "END".toList) rest block after

def existenceTest : Language Char :=
  phrase ["IF".toList, "EXISTS".toList] + phrase ["IF".toList, "NOT".toList, "EXISTS".toList]

/-- The first character of a name. -/
def nameStart : Language Char := {t | ∃ c, isWordChar c = true ∧ t = [c]}

/-- A statement as far as the first character of the name behind its words. -/
def statement (words : List Text) : Language Char := phrase words * (someBlanks * nameStart)

/-- Whether something begins with a name, and stands in a block behind such words and blanks. -/
def IsNameBehind (words : List Text) (block rest : Text) : Prop :=
  ∃ a, ∃ t ∈ phrase words * someBlanks, a ++ (t ++ rest) = block ∧
    ∃ c ∈ rest.head?, isWordChar c = true

/-! ## The wrapper and the block -/

theorem isFirm_dollars : IsFirm (verbatim ['$', '$']) := isFirm_verbatim (by decide) ['$']

theorem recognises_dropOpening : Recognises dropOpening? opening := by
  have hbegin := (recognises_dropWord "BEGIN".toList).behind_blanks (isFirm_anyCase (by decide))
  have hdollars := (recognises_dropPrefix ['$', '$']).bind hbegin
  exact (recognises_dropWord "DO".toList).bind (hdollars.behind_blanks (isFirm_dollars.mul _))

theorem somewhere_beginsClosing_iff {s : Text} :
    somewhere beginsClosing s = true ↔ Occurs closing s := by
  have hdollars := (recognises_dropPrefix ['$', '$']).behind_blanks isFirm_dollars
  exact ((recognises_dropWord "END".toList).bind hdollars).somewhere_iff

theorem isWrapped_iff {clean : Text} : isWrapped clean = true ↔ Occurs wrapper clean := by
  unfold isWrapped wrapper
  simp only [somewhere_iff, occurs_iff]
  constructor
  · rintro ⟨r, hr, h⟩
    cases hopen : dropOpening? r with
    | none => simp [hopen] at h
    | some u =>
      rw [hopen, Option.map_some, Option.getD_some, somewhere_beginsClosing_iff] at h
      obtain ⟨t, ht, rfl⟩ := (recognises_dropOpening _ _).1 hopen
      obtain ⟨e, he, mid, b, rfl⟩ := h
      refine ⟨_, hr, t ++ (mid ++ e), ⟨t, ht, _, ⟨mid, trivial, e, he, rfl⟩, rfl⟩, b, ?_⟩
      simp
  · rintro ⟨r, hr, _, ⟨t, ht, _, ⟨mid, -, e, he, rfl⟩, rfl⟩, b, rfl⟩
    refine ⟨_, hr, ?_⟩
    have hopen : dropOpening? (t ++ (mid ++ e) ++ b) = some (mid ++ e ++ b) :=
      (recognises_dropOpening _ _).2 ⟨t, ht, by simp⟩
    rw [hopen, Option.map_some, Option.getD_some, somewhere_beginsClosing_iff]
    exact ⟨e, he, mid, b, rfl⟩

theorem block?_eq_some_iff {clean block : Text} :
    block? clean = some block ↔ IsBlock clean block := by
  unfold block? IsBlock
  simp only [← cutAt?_eq_some_iff, Option.bind_eq_bind, Option.bind_eq_some_iff, Option.pure_def,
    Option.some.injEq, Prod.exists]
  constructor
  · rintro ⟨before, rest, hbegin, body, after, hend, rfl⟩
    exact ⟨before, rest, after, hbegin, hend⟩
  · rintro ⟨before, rest, after, hbegin, hend⟩
    exact ⟨before, rest, hbegin, block, after, hend, rfl⟩

/-- In a wrapper there is a block. -/
theorem exists_isBlock {clean : Text} (h : Occurs wrapper clean) :
    ∃ block, IsBlock clean block := by
  -- The `BEGIN` of the wrapper has an `END` behind it, so the first `BEGIN` has one too.
  obtain ⟨_, ⟨_, ⟨d, hd, _, ⟨b₁, hb₁, _, ⟨q, hq, _, ⟨b₂, hb₂, w, hw, rfl⟩, rfl⟩, rfl⟩, rfl⟩, _,
    ⟨mid, -, _, ⟨e, he, f, hf, rfl⟩, rfl⟩, rfl⟩, a, b, hs⟩ := h
  have hplace : (a ++ (d ++ (b₁ ++ (q ++ b₂)))) ++ (w ++ (mid ++ (e ++ f) ++ b)) = clean := by
    rw [← hs]
    simp
  have hoccurs : Occurs (anyCase "BEGIN".toList) clean :=
    ⟨w, hw, _, _, (List.append_assoc _ _ _).trans hplace⟩
  obtain ⟨before, rest, hbegin⟩ := exists_isFirst hoccurs
  have hsuffix := hbegin.suffix_after hw hplace
  have hend : Occurs (anyCase "END".toList) rest :=
    Occurs.of_suffix ⟨e, he, mid, f ++ b, by simp⟩ hsuffix
  obtain ⟨block, after, hfirst⟩ := exists_isFirst hend
  exact ⟨block, before, rest, after, hbegin, hfirst⟩

/-! ## Statements -/

theorem isGuarded_iff {block : Text} : isGuarded block = true ↔ Occurs existenceTest block := by
  unfold isGuarded existenceTest
  rw [somewhere_beginsPhrase_iff (by decide), anyPhrase_cons, anyPhrase_singleton]

/-- The code points of all blanks. -/
def blankCodes : List Nat :=
  [9, 10, 11, 12, 13, 28, 29, 30, 31, 32, 0x85, 0xA0, 0x1680, 0x2000, 0x2001, 0x2002, 0x2003,
   0x2004, 0x2005, 0x2006, 0x2007, 0x2008, 0x2009, 0x200A, 0x2028, 0x2029, 0x202F, 0x205F, 0x3000]

theorem toNat_mem_blankCodes {c : Char} (h : isBlank c = true) : c.toNat ∈ blankCodes := by
  simp only [isBlank, Bool.or_eq_true, Bool.and_eq_true, decide_eq_true_eq, beq_iff_eq] at h
  simp only [blankCodes, List.mem_cons, List.not_mem_nil, or_false]
  omega

theorem isBlank_of_isWordChar {c : Char} (h : isWordChar c = true) : isBlank c = false := by
  have hnone : ∀ n ∈ blankCodes, wordRanges.has n = false := by decide +kernel
  rw [Bool.eq_false_iff]
  intro hblank
  have hc := hnone c.toNat (toNat_mem_blankCodes hblank)
  unfold isWordChar at h
  rw [hc] at h
  cases h

namespace Shape

theorem isSolid_words (shape : Shape) : ∀ w ∈ shape.words, isSolid w = true := by
  cases shape <;> decide

theorem isSolid_excuses (shape : Shape) : ∀ p ∈ shape.excuses, ∀ w ∈ p, isSolid w = true := by
  cases shape <;> decide

/-- What is left behind the words of a statement and all blanks. -/
theorem drop_words_eq_some_iff {shape : Shape} {s r : Text} :
    (dropPhrase? shape.words s).bind skipSomeBlanks? = some r ↔
      IsBare r ∧ ∃ t ∈ phrase shape.words * someBlanks, t ++ r = s := by
  simp only [Option.bind_eq_some_iff, recognises_dropPhrase shape.isSolid_words _ _,
    skipSomeBlanks?_eq_some_iff, Language.mem_mul]
  constructor
  · rintro ⟨_, ⟨a, ha, rfl⟩, hbare, b, hb, rfl⟩
    exact ⟨hbare, a ++ b, ⟨a, ha, b, hb, rfl⟩, List.append_assoc a b r⟩
  · rintro ⟨hbare, _, ⟨a, ha, b, hb, rfl⟩, rfl⟩
    exact ⟨b ++ r, ⟨a, ha, (List.append_assoc a b r).symm⟩, hbare, b, hb, rfl⟩

theorem begins_iff {shape : Shape} {s : Text} : shape.begins s = true ↔
    ∃ t ∈ phrase shape.words * someBlanks, ∃ c r, t ++ c :: r = s ∧ isWordChar c = true ∧
      ¬ OccursInLine (anyPhrase shape.excuses) (c :: r) := by
  unfold begins
  constructor
  · intro h
    split at h
    · next c r hdrop =>
      obtain ⟨-, t, ht, hs⟩ := drop_words_eq_some_iff.1 hdrop
      rw [Bool.and_eq_true, Bool.not_eq_true', Bool.eq_false_iff, Ne,
        somewhereInLine_beginsPhrase_iff shape.isSolid_excuses] at h
      exact ⟨t, ht, c, r, hs, h.1, h.2⟩
    · cases h
  · rintro ⟨t, ht, c, r, hs, hc, hexcuse⟩
    have hbare : IsBare (c :: r) := by
      rintro d ⟨⟩
      exact isBlank_of_isWordChar hc
    rw [drop_words_eq_some_iff.2 ⟨hbare, t, ht, hs⟩]
    dsimp only
    rw [Bool.and_eq_true, Bool.not_eq_true', Bool.eq_false_iff, Ne,
      somewhereInLine_beginsPhrase_iff shape.isSolid_excuses]
    exact ⟨hc, hexcuse⟩

variable {shape : Shape} {words : List Text} {block rest : Text}

theorem occursIn_iff : shape.occursIn block = true ↔
    ∃ rest, IsNameBehind shape.words block rest ∧
      ¬ OccursInLine (anyPhrase shape.excuses) rest := by
  unfold occursIn IsNameBehind
  simp only [somewhere_iff, begins_iff]
  constructor
  · rintro ⟨_, ⟨a, rfl⟩, t, ht, c, r, rfl, hc, hexcuse⟩
    exact ⟨c :: r, ⟨a, t, ht, rfl, c, rfl, hc⟩, hexcuse⟩
  · rintro ⟨_ | ⟨c, r⟩, ⟨a, t, ht, rfl, d, hd, hc⟩, hexcuse⟩
    · cases hd
    · cases hd
      exact ⟨t ++ c :: r, ⟨a, rfl⟩, t, ht, c, r, rfl, hc, hexcuse⟩

theorem occurs_statement_iff :
    Occurs (statement words) block ↔ ∃ rest, IsNameBehind words block rest := by
  unfold Occurs statement IsNameBehind
  constructor
  · rintro ⟨_, ⟨p, hp, _, ⟨b, hb, _, ⟨c, hc, rfl⟩, rfl⟩, rfl⟩, a, r, rfl⟩
    exact ⟨c :: r, a, p ++ b, ⟨p, hp, b, hb, rfl⟩, by simp, c, rfl, hc⟩
  · rintro ⟨_ | ⟨c, r⟩, a, _, ⟨p, hp, b, hb, rfl⟩, rfl, d, hd, hc⟩
    · cases hd
    · cases hd
      exact ⟨p ++ (b ++ [c]), ⟨p, hp, _, ⟨b, hb, [c], ⟨c, hc, rfl⟩, rfl⟩, rfl⟩, a, r, by simp⟩

/-! ## Excuses -/

/-- Where existence is not tested in the whole block, it is not tested on a line of it either. -/
theorem not_occursInLine_existenceTest (hopen : ¬ Occurs existenceTest block)
    (h : IsNameBehind words block rest) : ¬ OccursInLine existenceTest rest := by
  obtain ⟨a, t, -, rfl, -⟩ := h
  intro hline
  exact hopen (hline.occurs.of_suffix ⟨a ++ t, List.append_assoc a t rest⟩)

/-- Three shapes have no excuse but a test for existence. -/
theorem occursIn_iff_occurs (hopen : ¬ Occurs existenceTest block) (hshape : shape ≠ .insertInto) :
    shape.occursIn block = true ↔ Occurs (statement shape.words) block := by
  rw [occursIn_iff, occurs_statement_iff]
  refine exists_congr fun rest => and_iff_left_of_imp fun h => ?_
  have hnone := not_occursInLine_existenceTest hopen h
  rw [existenceTest, occursInLine_add_iff, not_or] at hnone
  cases shape with
  | createTable =>
    rw [excuses, anyPhrase_singleton]
    exact hnone.2
  | alterTable =>
    rw [excuses, anyPhrase_cons, anyPhrase_singleton, occursInLine_add_iff, not_or]
    exact hnone
  | insertInto => exact absurd rfl hshape
  | dropTable =>
    rw [excuses, anyPhrase_singleton]
    exact hnone.1

/-- An insertion has one more excuse. -/
theorem insertInto_occursIn_iff (hopen : ¬ Occurs existenceTest block) :
    insertInto.occursIn block = true ↔ ∃ rest, IsNameBehind insertInto.words block rest ∧
      ¬ OccursInLine (phrase ["WHERE".toList, "NOT".toList, "EXISTS".toList]) rest := by
  rw [occursIn_iff]
  refine exists_congr fun rest => and_congr_right fun h => not_congr ?_
  have hnone := not_occursInLine_existenceTest hopen h
  rw [existenceTest, occursInLine_add_iff, not_or] at hnone
  rw [excuses, anyPhrase_cons, anyPhrase_singleton, occursInLine_add_iff]
  exact or_iff_left hnone.2

/-- What the report says about a statement of each shape. -/
def advice : Shape → Text
  | createTable =>
    Finding.mark ++ "Use `CREATE TABLE IF NOT EXISTS` for idempotent table creation".toList
  | alterTable =>
    Finding.mark ++ "Use `ALTER TABLE IF EXISTS` for idempotent table alterations".toList
  | insertInto =>
    Finding.mark ++ "Consider adding `WHERE NOT EXISTS` check for idempotent data insertion".toList
  | dropTable => Finding.mark ++ "Use `DROP TABLE IF EXISTS` for idempotent table removal".toList

end Shape

/-! ## The rules -/

/-- All shapes, in the order of the report. -/
def shapes : List Shape := [.createTable, .alterTable, .insertInto, .dropTable]

theorem standard_eq : Rule.standard = shapes.map fun shape => ⟨shape, shape.advice, true⟩ := rfl

theorem advice_nodup : (shapes.map Shape.advice).Nodup := by decide +kernel

theorem mem_shapes (shape : Shape) : shape ∈ shapes := by cases shape <;> decide

/-- What is said about a block when existence is not tested in it. -/
def advices (block : Text) : List Text := (shapes.filter (·.occursIn block)).map Shape.advice

theorem mem_advices_iff {shape : Shape} {block : Text} :
    shape.advice ∈ advices block ↔ shape.occursIn block = true := by
  unfold advices
  constructor
  · intro h
    obtain ⟨shape', hmem, heq⟩ := List.mem_map.1 h
    rw [List.mem_filter] at hmem
    rw [← List.inj_on_of_nodup_map advice_nodup hmem.1 (mem_shapes shape) heq]
    exact hmem.2
  · intro h
    exact List.mem_map_of_mem (List.mem_filter.2 ⟨mem_shapes shape, h⟩)

theorem messages_of_unwrapped {content : Text} (h : ¬ Occurs wrapper (stripMarkers content)) :
    (migration content).map Finding.message = [Finding.unwrappedMigration.message] := by
  unfold migration migrationUnder
  rw [if_neg (by rwa [isWrapped_iff])]
  rfl

theorem messages_of_block {content block : Text} (hwrapped : Occurs wrapper (stripMarkers content))
    (hblock : IsBlock (stripMarkers content) block) :
    (migration content).map Finding.message = if isGuarded block then [] else advices block := by
  unfold migration migrationUnder
  dsimp only
  rw [if_pos (isWrapped_iff.2 hwrapped), block?_eq_some_iff.2 hblock, Option.getD_some,
    standard_eq, List.filter_map, List.map_map, List.map_map]
  by_cases hguarded : isGuarded block = true
  · rw [if_pos hguarded, List.filter_eq_nil_iff.2, List.map_nil]
    simp [Rule.isBroken, hguarded]
  · rw [if_neg hguarded, advices]
    simp [Rule.isBroken, Function.comp_def, hguarded, Finding.message]

/-! ## The check in full -/

/-- What is said about a block in which existence is not tested: one piece of advice at most for
each shape, in the order of the shapes. The advice about an insertion needs one that is not excused
on its line; for the other shapes the words and a name are enough. -/
structure Advises (block : Text) (messages : List Text) : Prop where
  in_order : messages.Sublist (shapes.map Shape.advice)
  once : messages.Nodup
  create_iff : Shape.createTable.advice ∈ messages ↔
    Occurs (statement ["CREATE".toList, "TABLE".toList]) block
  alter_iff : Shape.alterTable.advice ∈ messages ↔
    Occurs (statement ["ALTER".toList, "TABLE".toList]) block
  insert_iff : Shape.insertInto.advice ∈ messages ↔
    ∃ rest, IsNameBehind ["INSERT".toList, "INTO".toList] block rest ∧
      ¬ OccursInLine (phrase ["WHERE".toList, "NOT".toList, "EXISTS".toList]) rest
  drop_iff : Shape.dropTable.advice ∈ messages ↔
    Occurs (statement ["DROP".toList, "TABLE".toList]) block

/-- What is said about a text that has no markers any more. -/
structure Judges (clean : Text) (messages : List Text) : Prop where
  unwrapped : ¬ Occurs wrapper clean → messages = [Finding.unwrappedMigration.message]
  has_block : Occurs wrapper clean → ∃ block, IsBlock clean block
  tested : ∀ block, Occurs wrapper clean → IsBlock clean block → Occurs existenceTest block →
    messages = []
  untested : ∀ block, Occurs wrapper clean → IsBlock clean block → ¬ Occurs existenceTest block →
    Advises block messages

theorem advises_advices {block : Text} (hopen : ¬ Occurs existenceTest block) :
    Advises block (advices block) where
  in_order := List.filter_sublist.map Shape.advice
  once := advice_nodup.sublist (List.filter_sublist.map Shape.advice)
  create_iff := mem_advices_iff.trans (Shape.occursIn_iff_occurs hopen (by decide))
  alter_iff := mem_advices_iff.trans (Shape.occursIn_iff_occurs hopen (by decide))
  insert_iff := mem_advices_iff.trans (Shape.insertInto_occursIn_iff hopen)
  drop_iff := mem_advices_iff.trans (Shape.occursIn_iff_occurs hopen (by decide))

/-- What the check of migrations says, about every text. -/
theorem a_migration_is_judged_by_its_first_block (content : Text) :
    Judges (stripMarkers content) ((migration content).map Finding.message) where
  unwrapped hwrapped := messages_of_unwrapped hwrapped
  has_block hwrapped := exists_isBlock hwrapped
  tested block hwrapped hblock htested := by
    rw [messages_of_block hwrapped hblock, if_pos (isGuarded_iff.2 htested)]
  untested block hwrapped hblock hopen := by
    rw [messages_of_block hwrapped hblock, if_neg (by rwa [isGuarded_iff])]
    exact advises_advices hopen

-- An excuse on the next line does not count.
example : migration ("do $$ begin\n  Insert\tInto t\n" ++
    "  select 1 where not exists (select 1);\nend $$").toList =
    [.statement Shape.insertInto.advice] := by decide +kernel

end PinGate.Check
