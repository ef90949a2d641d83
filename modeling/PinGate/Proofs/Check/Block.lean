-- How far the block of a migration reaches. It ends at the first letters `END`, in any case, be
-- they a word or a part of one, so of the statements in a body only those count that stand in front
-- of these letters; and nothing that follows the block counts at all.
import PinGate.Proofs.Check.Dockerfile
import PinGate.Proofs.Check.Migration
import PinGate.Proofs.Text.Edges

namespace PinGate.Check

open Text

/-- A migration that is nothing but a block. -/
def wrapped (body : Text) : Text := "DO $$ BEGIN ".toList ++ (body ++ " END $$;".toList)

/-- Whether no line of a text carries the marker of an added line. -/
def IsUnmarked (content : Text) : Prop := ∀ l ∈ lines content, l.head? ≠ some '+'

instance : DecidablePred IsUnmarked := fun content =>
  inferInstanceAs (Decidable (∀ l ∈ lines content, l.head? ≠ some '+'))

/-- The advice about a body: one piece for each shape of statement that stands in it, in order. -/
structure Reports (body : Text) (messages : List Text) : Prop where
  in_order : messages.Sublist (shapes.map Shape.advice)
  advice_iff : ∀ shape, Shape.advice shape ∈ messages ↔ Occurs (statement shape.words) body

/-- Existence is tested nowhere in a body. -/
structure HasNoTest (body : Text) : Prop where
  no_if : ¬ Occurs existenceTest body
  no_where : ¬ Occurs (phrase ["WHERE".toList, "NOT".toList, "EXISTS".toList]) body

theorem hasNoTest_iff {body : Text} : HasNoTest body ↔ ¬ isGuarded body = true ∧
    ¬ somewhere (beginsPhrase [["WHERE".toList, "NOT".toList, "EXISTS".toList]]) body = true := by
  rw [isGuarded_iff, somewhere_beginsPhrase_iff (by decide), anyPhrase_singleton]
  exact ⟨fun h => ⟨h.no_if, h.no_where⟩, fun h => ⟨h.1, h.2⟩⟩

instance : DecidablePred HasNoTest := fun _ => decidable_of_iff' _ hasNoTest_iff

/-! ## Markers -/

section

variable {p s : Text}

theorem IsUnmarked.append (h : IsUnmarked s) (hp : '\n' ∉ p) (hhead : p.head? ≠ some '+') :
    IsUnmarked (s ++ p) := by
  unfold IsUnmarked at h ⊢
  induction s using by_lines with
  | last l hl =>
    have hlp : '\n' ∉ l ++ p := by simp [hl, hp]
    rw [lines_of_not_mem hl, List.forall_mem_singleton] at h
    rw [lines_of_not_mem hlp, List.forall_mem_singleton]
    cases l with
    | nil => exact hhead
    | cons c l => exact h
  | more l b hl ih =>
    rw [lines_append, List.forall_mem_append] at h
    rw [List.append_assoc, List.cons_append, lines_append, List.forall_mem_append]
    exact ⟨h.1, ih h.2⟩

theorem IsUnmarked.prepend (h : IsUnmarked s) {c : Char} (hc : c ≠ '+') (hp : '\n' ∉ c :: p) :
    IsUnmarked (c :: p ++ s) := by
  have hline : ∀ l, '\n' ∉ l → ∀ m ∈ lines (c :: p ++ l), m.head? ≠ some '+' := by
    intro l hl
    have hpl : '\n' ∉ c :: p ++ l := fun hmem => (List.mem_append.1 hmem).elim hp hl
    rw [lines_of_not_mem hpl, List.forall_mem_singleton]
    simpa using hc
  unfold IsUnmarked at h ⊢
  induction s using by_lines with
  | last l hl => exact hline l hl
  | more l b hl ih =>
    rw [lines_append, List.forall_mem_append] at h
    rw [← List.append_assoc, lines_append, List.forall_mem_append]
    exact ⟨hline l hl, h.2⟩

end

theorem stripMarkers_wrapped {body : Text} (h : IsUnmarked body) :
    stripMarkers (wrapped body) = wrapped body := by
  apply stripMarkers_of_unmarked
  exact (h.append (by decide) (by decide)).prepend (by decide) (by decide)

/-! ## The block -/

theorem isWrapped_wrapped (body : Text) : isWrapped (wrapped body) = true := by
  have hopen : dropOpening? (wrapped body) = some (' ' :: (body ++ " END $$;".toList)) := rfl
  have hclose : somewhere beginsClosing (' ' :: (body ++ " END $$;".toList)) = true := by
    rw [somewhere_iff]
    exact ⟨"END $$;".toList, ⟨' ' :: (body ++ [' ']), by simp⟩, by decide⟩
  unfold isWrapped
  rw [somewhere_iff]
  refine ⟨wrapped body, List.suffix_rfl, ?_⟩
  rw [hopen, Option.map_some, Option.getD_some, hclose]

theorem block?_wrapped (body : Text) : block? (wrapped body) =
    (cutAt? "END".toList (body ++ " END $$;".toList)).map fun p => ' ' :: p.1 := by
  have hbegin : cutAt? "BEGIN".toList (wrapped body) =
      some ("DO $$ ".toList, ' ' :: (body ++ " END $$;".toList)) := rfl
  have hblank : dropWord? "END".toList (' ' :: (body ++ " END $$;".toList)) = none := rfl
  unfold block?
  rw [hbegin]
  simp only [Option.bind_eq_bind, Option.bind_some]
  rw [cutAt?_cons_of_none hblank]
  cases cutAt? "END".toList (body ++ " END $$;".toList) <;> rfl

theorem isBlock_of_first_end {body seen rest : Text}
    (h : IsFirst (anyCase "END".toList) body seen rest) : IsBlock (wrapped body) (' ' :: seen) := by
  have hcut := (cutAt?_eq_some_iff _ _).2 (h.append " END $$;".toList)
  rw [← block?_eq_some_iff, block?_wrapped]
  exact congrArg _ hcut

theorem isBlock_of_no_end {body : Text} (h : ¬ Occurs (anyCase "END".toList) body) :
    IsBlock (wrapped body) (' ' :: (body ++ [' '])) := by
  have hcut := cutAt?_append_of_none (c := ' ') (b := "END $$;".toList) (by decide)
    (cutAt?_eq_none_of_not_occurs h)
  rw [← block?_eq_some_iff, block?_wrapped]
  exact congrArg _ hcut

/-! ## The statements in a block -/

theorem isFirm_statement (shape : Shape) :
    IsFirm (statement shape.words) ∧ IsFirm (statement shape.words).reverse := by
  have hname : IsFirm nameStart.reverse := by
    rintro t ⟨c, hc, ht⟩
    obtain rfl : t = [c] := by simpa using ht
    refine ⟨List.cons_ne_nil c [], ?_⟩
    rintro d ⟨⟩
    exact isBlank_of_isWordChar hc
  constructor
  · unfold statement
    apply IsFirm.mul
    cases shape <;> exact isFirm_phrase (by decide)
  · unfold statement
    rw [Language.reverse_mul, Language.reverse_mul]
    exact (hname.mul _).mul _

theorem isFirm_existenceTest : IsFirm existenceTest ∧ IsFirm existenceTest.reverse := by
  unfold existenceTest
  rw [Language.reverse_add]
  constructor
  · exact (isFirm_phrase (by decide)).add (isFirm_phrase (by decide))
  · exact (isFirm_phrase_reverse (by decide) (by decide)).add
      (isFirm_phrase_reverse (by decide) (by decide))

/-- Without a test for existence every shape is told by its words and a name. -/
theorem HasNoTest.occursIn_iff {block : Text} (h : HasNoTest block) (shape : Shape) :
    shape.occursIn block = true ↔ Occurs (statement shape.words) block := by
  by_cases hshape : shape = .insertInto
  · subst hshape
    rw [Shape.insertInto_occursIn_iff h.no_if, Shape.occurs_statement_iff]
    refine exists_congr fun rest => and_iff_left_of_imp ?_
    rintro ⟨a, t, -, rfl, -⟩ hline
    exact h.no_where (hline.occurs.of_suffix ⟨a ++ t, List.append_assoc a t rest⟩)
  · exact Shape.occursIn_iff_occurs h.no_if hshape

/-- A block that is `seen` and blanks around it is reported as `seen` alone would be. -/
theorem reports_of_block {body seen block : Text} (hmarkers : IsUnmarked body)
    (hblock : IsBlock (wrapped body) block) (htest : HasNoTest seen)
    (hblanks : ∀ l, IsFirm l → IsFirm l.reverse → (Occurs l block ↔ Occurs l seen)) :
    Reports seen ((migration (wrapped body)).map Finding.message) := by
  have htest_block : HasNoTest block := by
    constructor
    · rw [hblanks _ isFirm_existenceTest.1 isFirm_existenceTest.2]
      exact htest.no_if
    · rw [hblanks _ (isFirm_phrase (by decide)) (isFirm_phrase_reverse (by decide) (by decide))]
      exact htest.no_where
  have hwrapped : Occurs wrapper (stripMarkers (wrapped body)) := by
    rw [stripMarkers_wrapped hmarkers, ← isWrapped_iff]
    exact isWrapped_wrapped body
  rw [← stripMarkers_wrapped hmarkers] at hblock
  have hguard : ¬ isGuarded block = true := by
    rw [isGuarded_iff]
    exact htest_block.no_if
  rw [messages_of_block hwrapped hblock, if_neg hguard]
  constructor
  · exact List.filter_sublist.map Shape.advice
  · intro shape
    obtain ⟨hfirm, hfirm_reverse⟩ := isFirm_statement shape
    rw [mem_advices_iff, htest_block.occursIn_iff, hblanks _ hfirm hfirm_reverse]

theorem HasNoTest.of_infix {body seen : Text} (h : HasNoTest body) (hseen : seen <:+: body) :
    HasNoTest seen where
  no_if hoccurs := h.no_if (hoccurs.of_infix hseen)
  no_where hoccurs := h.no_where (hoccurs.of_infix hseen)

/-- The statements of a body without a test for existence are reported as far as the first letters
`END`: all of them when these letters stand nowhere in the body, and otherwise the ones in front of
the letters, also where the letters are part of a name. -/
theorem statements_count_up_to_the_first_end {body : Text} (hmarkers : IsUnmarked body)
    (htest : HasNoTest body) :
    (¬ Occurs (anyCase "END".toList) body →
      Reports body ((migration (wrapped body)).map Finding.message)) ∧
    ∀ seen rest, IsFirst (anyCase "END".toList) body seen rest →
      Reports seen ((migration (wrapped body)).map Finding.message) := by
  constructor
  · intro hend
    apply reports_of_block hmarkers (isBlock_of_no_end hend) htest
    intro l hfirm hfirm_reverse
    rw [occurs_cons_iff hfirm (by decide), occurs_concat_iff hfirm_reverse (by decide)]
  · intro seen rest hfirst
    have hseen : seen <:+: body := by
      obtain ⟨t, -, hs⟩ := hfirst.stands
      exact ⟨[], t ++ rest, hs⟩
    apply reports_of_block hmarkers (isBlock_of_first_end hfirst) (htest.of_infix hseen)
    intro l hfirm _
    exact occurs_cons_iff hfirm (by decide)

/-- The name of a table ends the block, and the statement behind it goes unseen. -/
theorem a_table_of_vendors_ends_the_block :
    let body := "ALTER TABLE vendors ADD vendor_id INT;\nDROP TABLE legacy;".toList
    let messages := (migration (wrapped body)).map Finding.message
    IsUnmarked body ∧ HasNoTest body ∧ Reports "ALTER TABLE v".toList messages ∧
      Occurs (statement Shape.dropTable.words) body ∧ Shape.dropTable.advice ∉ messages := by
  intro body messages
  have hmarkers : IsUnmarked body := by decide +kernel
  have htest : HasNoTest body := by decide +kernel
  have hfirst : IsFirst (anyCase "END".toList) body "ALTER TABLE v".toList
      "ors ADD vendor_id INT;\nDROP TABLE legacy;".toList := by
    rw [← cutAt?_eq_some_iff]
    decide +kernel
  have hreports : Reports "ALTER TABLE v".toList messages :=
    (statements_count_up_to_the_first_end hmarkers htest).2 _ _ hfirst
  have hseen : HasNoTest "ALTER TABLE v".toList := by decide +kernel
  refine ⟨hmarkers, htest, hreports, ?_, ?_⟩
  · rw [← htest.occursIn_iff]
    decide +kernel
  · rw [hreports.advice_iff, ← hseen.occursIn_iff]
    decide +kernel

/-! ## Behind the block -/

section

variable {clean block : Text}

theorem IsBlock.append (h : IsBlock clean block) (b : Text) : IsBlock (clean ++ b) block := by
  obtain ⟨before, rest, after, hbegin, hend⟩ := h
  exact ⟨before, rest ++ b, after ++ b, hbegin.append b, hend.append b⟩

/-- A text that has a wrapper is judged under all rules as it would be with more behind it. -/
theorem migrationUnder_append {content : Text} (h : Occurs wrapper (stripMarkers content))
    (rules : List Rule) (s : Text) :
    migrationUnder rules (content ++ s) = migrationUnder rules content := by
  obtain ⟨b, hb⟩ := stripMarkers_prefix content s
  obtain ⟨block, hblock⟩ := exists_isBlock h
  have hwrapped : Occurs wrapper (stripMarkers content ++ b) :=
    h.of_infix (List.prefix_append _ b).isInfix
  unfold migrationUnder
  rw [← hb]
  dsimp only
  rw [if_pos (isWrapped_iff.2 h), if_pos (isWrapped_iff.2 hwrapped), block?_eq_some_iff.2 hblock,
    block?_eq_some_iff.2 (hblock.append b)]

end

/-- Once a migration has a wrapper, nothing that is appended to it changes what is objected to. -/
theorem only_the_first_block_counts {content : Text} (h : Occurs wrapper (stripMarkers content))
    (s : Text) : migration (content ++ s) = migration content :=
  migrationUnder_append h Rule.standard s

/-- What follows goes on in the last line, opens a block of its own, and would excuse
everything if it were looked at. -/
theorem a_later_block_goes_unseen :
    let content := "+DO $$ BEGIN\n+DROP TABLE t;\n+END $$ -- first\n+".toList
    let more := "+DO $$ BEGIN\n+CREATE TABLE IF NOT EXISTS u ();\n+ALTER TABLE u; END $$".toList
    Occurs wrapper (stripMarkers content) ∧
      migration (content ++ more) = [.statement Shape.dropTable.advice] := by
  intro content more
  have hwrapped : Occurs wrapper (stripMarkers content) := by
    rw [← isWrapped_iff]
    decide +kernel
  refine ⟨hwrapped, ?_⟩
  rw [only_the_first_block_counts hwrapped]
  decide +kernel

end PinGate.Check
