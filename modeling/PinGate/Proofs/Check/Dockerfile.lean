-- Dockerfiles line by line. A marker is taken away from marked lines alone; then the keyword, blanks
-- and an image with its tag are all that counts of a line, unless a line ends behind the keyword:
-- the blanks may reach over its end, and what comes next is then taken for the image.
import PinGate.Check.Dockerfile
import PinGate.Proofs.Check.Image
import PinGate.Proofs.Text.Words

namespace PinGate.Check

open Text

/-! ## Markers -/

/-- A line without the marker of an added line. -/
def unmarked : Text → Text
  | '+' :: l => l
  | l => l

theorem unmarked_of_head? {l : Text} (h : l.head? ≠ some '+') : unmarked l = l := by
  unfold unmarked
  split
  · exact absurd rfl h
  · rfl

theorem not_mem_unmarked {c : Char} {l : Text} (h : c ∉ l) : c ∉ unmarked l := by
  unfold unmarked
  split
  · exact fun hc => h (List.mem_cons_of_mem _ hc)
  · exact h

theorem stripMarkers_of_unmarked {content : Text}
    (h : ∀ l ∈ lines content, l.head? ≠ some '+') : stripMarkers content = content := by
  have hsame : (lines content).map unmarked = lines content := by
    rw [List.map_congr_left fun l hl => unmarked_of_head? (h l hl), List.map_id']
  exact (congrArg unlines hsame).trans (unlines_lines content)

theorem stripMarkers_of_not_mem {content : Text} (h : '+' ∉ content) :
    stripMarkers content = content := by
  apply stripMarkers_of_unmarked
  intro l hl hhead
  exact h (mem_of_mem_splitOn hl (List.mem_of_mem_head? hhead))

/-- The lines stay apart when their markers are taken away. -/
theorem lines_stripMarkers (content : Text) :
    lines (stripMarkers content) = (lines content).map unmarked := by
  apply List.splitOn_intercalate
  · intro l hl
    obtain ⟨m, hm, rfl⟩ := List.mem_map.1 hl
    exact not_mem_unmarked (not_mem_of_mem_lines hm)
  · rw [Ne, List.map_eq_nil_iff]
    exact List.splitOn_ne_nil '\n' content

theorem stripMarkers_line {l : Text} (hl : '\n' ∉ l) : stripMarkers l = unmarked l := by
  have hlines := lines_stripMarkers l
  rw [lines_of_not_mem hl] at hlines
  exact (unlines_lines _).symm.trans ((congrArg unlines hlines).trans List.intercalate_singleton)

theorem stripMarkers_append {l : Text} (hl : '\n' ∉ l) (b : Text) :
    stripMarkers (l ++ '\n' :: b) = unmarked l ++ '\n' :: stripMarkers b := by
  have hlines : lines (stripMarkers (l ++ '\n' :: b)) =
      lines (unmarked l ++ '\n' :: stripMarkers b) := by
    rw [lines_stripMarkers, lines_append, lines_append, lines_stripMarkers, lines_of_not_mem hl,
      lines_of_not_mem (not_mem_unmarked hl), List.map_append]
    rfl
  rw [← unlines_lines (stripMarkers _), hlines, unlines_lines]

theorem unmarked_isPrefix (l f : Text) : unmarked l <+: unmarked (l ++ f) := by
  cases l with
  | nil => exact List.nil_prefix
  | cons c l =>
    by_cases hc : c = '+'
    · subst hc
      exact List.prefix_append l f
    · rw [unmarked_of_head? (by simp [hc]), unmarked_of_head? (by simp [hc])]
      exact List.prefix_append (c :: l) f

/-- What follows a text changes nothing in what is left of it without the markers. -/
theorem stripMarkers_prefix (content s : Text) :
    stripMarkers content <+: stripMarkers (content ++ s) := by
  induction content using by_lines with
  | last l hl =>
    rw [stripMarkers_line hl]
    by_cases hs : '\n' ∈ s
    · obtain ⟨f, r, rfl, hf⟩ := List.eq_append_cons_of_mem hs
      have hlf : '\n' ∉ l ++ f := by simp [hl, hf]
      rw [← List.append_assoc, stripMarkers_append hlf]
      exact (unmarked_isPrefix l f).trans (List.prefix_append _ _)
    · have hls : '\n' ∉ l ++ s := by simp [hl, hs]
      rw [stripMarkers_line hls]
      exact unmarked_isPrefix l s
  | more l b hl ih =>
    rw [List.append_assoc, List.cons_append, stripMarkers_append hl, stripMarkers_append hl]
    exact (List.prefix_append_right_inj _).2 (List.cons_prefix_cons.2 ⟨rfl, ih⟩)

/-! ## Lines -/

namespace BaseLine

/-- Whether a line is the keyword, with or without blanks behind it. -/
def NamesNothing (l : Text) : Prop := ∃ gap ∈ blanks, l = "FROM".toList ++ gap

/-- Whether a line is the keyword, blanks, and something that begins with an image. -/
def Names (l : Text) (i : ImageRef) : Prop :=
  ∃ gap ∈ someBlanks, ∃ s r, l = "FROM".toList ++ (gap ++ s) ∧ ImageRef.Begins isBlank s i r

theorem Names.tag_ne {l image tag : Text} (h : Names l ⟨image, some tag⟩) : tag ≠ [] := by
  obtain ⟨_, _, _, _, _, hbegins⟩ := h
  exact hbegins.tag_ne

/-- What a line by itself says of the base image. -/
def ofLine? (l : Text) : Option BaseLine :=
  ((dropPrefix? "FROM".toList l).bind skipSomeBlanks?).map fun s =>
    ⟨(ImageRef.read? isBlank s).map Prod.fst⟩

section

variable {l s t r : Text} {i : ImageRef}

instance : DecidablePred NamesNothing := fun _ => decidable_of_iff' _ eq_append_blanks_iff

theorem ofLine?_bind_base : (ofLine? l).bind base = some i ↔ Names l i := by
  unfold ofLine? Names
  simp only [Option.bind_map, Option.bind_eq_some_iff, Option.map_eq_some_iff, Prod.exists,
    Function.comp_apply, dropPrefix?_eq_some_iff, skipSomeBlanks?_eq_some_iff]
  constructor
  · rintro ⟨s, ⟨_, rfl, -, gap, hgap, rfl⟩, i, r, hread, rfl⟩
    exact ⟨gap, hgap, s, r, rfl, ImageRef.read?_eq_some_iff.1 hread⟩
  · rintro ⟨gap, hgap, s, r, rfl, hbegins⟩
    exact ⟨s, ⟨_, rfl, hbegins.head_plain, gap, hgap, rfl⟩, i, r,
      ImageRef.read?_eq_some_iff.2 hbegins, rfl⟩

/-- Behind a keyword that does not end the text the rest of the line is taken with it. -/
theorem read?_keyword (h : skipBlanks t ≠ []) : read? ("FROM".toList ++ t) =
    (skipSomeBlanks? t).map fun s => (⟨(ImageRef.read? isBlank s).map Prod.fst⟩, nextLine s) := by
  have hkey : dropPrefix? "FROM".toList ("FROM".toList ++ t) = some t :=
    dropPrefix?_eq_some_iff.2 rfl
  unfold read?
  rw [hkey]
  cases hs : skipSomeBlanks? t with
  | none => simp [hs]
  | some s =>
    obtain ⟨hbare, gap, hgap, rfl⟩ := skipSomeBlanks?_eq_some_iff.1 hs
    rw [skipBlanks_append hgap.2 hbare] at h
    simp [hs, h]

section

variable (hl : '\n' ∉ l) (hr : r = [] ∨ ∃ b, r = '\n' :: b)

include hl hr

theorem nextLine_line : nextLine (l ++ r) = r.tail := by
  rcases hr with rfl | ⟨b, rfl⟩
  · rw [List.append_nil, nextLine_of_not_mem hl]
    rfl
  · exact nextLine_append hl b

/-- A line that does not end behind the keyword is read without a look at what follows it. -/
theorem read?_line (h : ¬ NamesNothing l) :
    read? (l ++ r) = (ofLine? l).map fun x => (x, r.tail) := by
  have hkey : dropPrefix? "FROM".toList (l ++ r) =
      (dropPrefix? "FROM".toList l).map (· ++ r) := by
    rcases hr with rfl | ⟨b, rfl⟩
    · simp
    · exact dropPrefix?_append (by decide) l b
  have himage (s : Text) : (ImageRef.read? isBlank (s ++ r)).map Prod.fst =
      (ImageRef.read? isBlank s).map Prod.fst := by
    rcases hr with rfl | ⟨b, rfl⟩
    · rw [List.append_nil]
    · rw [ImageRef.readsAlone_read (by decide) (by decide) s b, Option.map_map]
      rfl
  unfold ofLine?
  cases ht : dropPrefix? "FROM".toList l with
  | none =>
    unfold read?
    rw [hkey, ht]
    rfl
  | some t =>
    obtain rfl := dropPrefix?_eq_some_iff.1 ht
    -- Something on the line ends the blanks, so they never reach over its end.
    have hblanks : skipBlanks t ≠ [] := by
      rw [Ne, skipBlanks_eq_nil_iff]
      exact fun hgap => h ⟨t, hgap, rfl⟩
    rw [List.append_assoc, read?_keyword (by simp [skipBlanks_append_of_ne_nil hblanks, hblanks]),
      skipSomeBlanks?_append_of_ne_nil hblanks]
    cases hs : skipSomeBlanks? t with
    | none => simp [hs]
    | some s =>
      obtain ⟨-, gap, -, rfl⟩ := skipSomeBlanks?_eq_some_iff.1 hs
      have hbreak : '\n' ∉ s := fun hmem => hl (by simp [hmem])
      simp [hs, himage, nextLine_line hbreak hr]

theorem all_line (h : ¬ NamesNothing l) : all (l ++ r) = (ofLine? l).toList ++ all r.tail := by
  have hread := read?_line hl hr h
  unfold all
  cases hx : ofLine? l with
  | none =>
    rw [hx] at hread
    rw [findAllLines_of_none hread, nextLine_line hl hr]
    rfl
  | some x =>
    rw [hx] at hread
    exact findAllLines_of_some hread

end

/-- When no line ends behind its keyword, each line is read by itself. -/
theorem all_eq_filterMap_lines (h : ∀ l ∈ lines s, ¬ NamesNothing l) :
    all s = (lines s).filterMap ofLine? := by
  induction s using by_lines with
  | last l hl =>
    rw [lines_of_not_mem hl] at h ⊢
    have hlast := all_line hl (.inl rfl) (h l List.mem_cons_self)
    have hnil : all [] = [] := findAllLines_nil _
    rw [List.append_nil, List.tail_nil, hnil] at hlast
    rw [hlast, List.filterMap_cons]
    cases ofLine? l <;> rfl
  | more l b hl ih =>
    rw [lines_append, lines_of_not_mem hl] at h ⊢
    rw [List.singleton_append, List.forall_mem_cons] at h
    rw [all_line hl (.inr ⟨b, rfl⟩) h.1, List.tail_cons, ih h.2, List.singleton_append,
      List.filterMap_cons]
    cases ofLine? l <;> rfl

end

end BaseLine

open BaseLine

/-! ## Tags that can move -/

/-- Whether a tag is a number, two numbers joined by a point, or made of letters. -/
def Moves (tag : Text) : Prop :=
  isNumber tag = true ∨
    (∃ major minor, tag = major ++ '.' :: minor ∧ isNumber major = true ∧ isNumber minor = true) ∨
    ∀ c ∈ tag, c.isAlpha = true

/-- The tags that are told by name are made of letters anyway. -/
theorem baseFloats_iff {tag : Text} (hne : tag ≠ []) : baseFloats tag = true ↔ Moves tag := by
  have hnames : ∀ name ∈ ["latest".toList, "stable".toList, "rolling".toList, "alpine".toList],
      ∀ c ∈ name, c.isAlpha = true := by decide
  unfold baseFloats isPlainWord Moves
  simp only [Bool.or_eq_true, Bool.and_eq_true, isPartialVersion_iff, List.contains_iff_mem,
    List.all_eq_true, or_assoc]
  constructor
  · rintro (hname | hnumber | hpair | ⟨-, hword⟩)
    · exact .inr (.inr (hnames tag hname))
    · exact .inl hnumber
    · exact .inr (.inl hpair)
    · exact .inr (.inr hword)
  · rintro (hnumber | hpair | hword)
    · exact .inr (.inl hnumber)
    · exact .inr (.inr (.inl hpair))
    · exact .inr (.inr (.inr ⟨by simp [hne], hword⟩))

theorem baseFloats_of_mem_slash {tag : Text} (h : '/' ∈ tag) : baseFloats tag = false := by
  have hversion : ¬ isPartialVersion tag = true := by
    simp [isPartialVersion_of_mem h (by decide) (by decide)]
  rw [Bool.eq_false_iff, Ne, baseFloats_iff (List.ne_nil_of_mem h), Moves, ← or_assoc,
    ← isPartialVersion_iff]
  rintro (h' | hword)
  · exact hversion h'
  · cases hword '/' h

/-! ## Line by line -/

/-- What is objected to in a line. -/
inductive Objected (l : Text) : Finding → Prop
  | untagged {image : Text} : Names l ⟨image, none⟩ → Objected l (.baseUntagged image)
  | floating {image tag : Text} : Names l ⟨image, some tag⟩ → Moves tag →
      Objected l (.baseFloating image tag)

/-- The objection to a line by itself. -/
def objection? (l : Text) : Option Finding := ((ofLine? (unmarked l)).bind base).bind judgeBase

theorem objected_iff {l : Text} {f : Finding} :
    Objected l f ↔ ∃ i, Names l i ∧ judgeBase i = some f := by
  constructor
  · rintro (hnames | ⟨hnames, hmoves⟩)
    · exact ⟨_, hnames, rfl⟩
    · exact ⟨_, hnames, if_pos ((baseFloats_iff hnames.tag_ne).2 hmoves)⟩
  · rintro ⟨⟨image, tag⟩, hnames, hf⟩
    cases tag with
    | none =>
      cases hf
      exact .untagged hnames
    | some tag =>
      unfold judgeBase at hf
      dsimp only at hf
      split at hf
      · next hfloats =>
        cases hf
        exact .floating hnames ((baseFloats_iff hnames.tag_ne).1 hfloats)
      · cases hf

theorem objection?_eq_some_iff {l : Text} {f : Finding} :
    objection? l = some f ↔ Objected (unmarked l) f := by
  unfold objection?
  rw [Option.bind_eq_some_iff, objected_iff]
  simp only [ofLine?_bind_base]

theorem dockerfile_eq_filterMap_lines {content : Text}
    (h : ∀ l ∈ lines content, ¬ NamesNothing (unmarked l)) :
    dockerfile content = (lines content).filterMap objection? := by
  have hlines : ∀ l ∈ lines (stripMarkers content), ¬ NamesNothing l := by
    rw [lines_stripMarkers, List.forall_mem_map]
    exact h
  unfold dockerfile baseImages objection?
  rw [all_eq_filterMap_lines hlines, lines_stripMarkers, List.filterMap_map,
    List.filterMap_filterMap, List.filterMap_filterMap]
  simp only [Function.comp_apply, Option.bind_assoc]

theorem dockerfile_of_one_image {r : Text} (hne : r ≠ []) (hr : ∀ c ∈ r, isBlank c = false) :
    dockerfile ("FROM ".toList ++ r) =
      (((ImageRef.read? isBlank r).map Prod.fst).bind judgeBase).toList := by
  have hbreak : '\n' ∉ "FROM ".toList ++ r := by
    intro h
    rcases List.mem_append.1 h with h | h
    · revert h
      decide
    · cases hr '\n' h
  have hkey : dropPrefix? "FROM".toList ("FROM ".toList ++ r) = some (' ' :: r) := rfl
  have hnames : ¬ NamesNothing (unmarked ("FROM ".toList ++ r)) := by
    obtain ⟨c, t, rfl⟩ := List.exists_cons_of_ne_nil hne
    rw [unmarked_of_head? (by simp), NamesNothing, eq_append_blanks_iff, hkey]
    rintro ⟨_, ⟨⟩, hblank⟩
    have hc := hblank c (by simp)
    rw [hr c List.mem_cons_self] at hc
    cases hc
  have hskip : skipSomeBlanks? (' ' :: r) = some r := by
    have hbare : IsBare r := fun c hc => hr c (List.mem_of_mem_head? hc)
    rw [skipSomeBlanks?, if_pos (by decide), skipBlanks_of_isBare hbare]
  have hobjection : objection? ("FROM ".toList ++ r) =
      ((ImageRef.read? isBlank r).map Prod.fst).bind judgeBase := by
    unfold objection? ofLine?
    rw [unmarked_of_head? (by simp), hkey, Option.bind_some, hskip]
    rfl
  rw [dockerfile_eq_filterMap_lines, lines_of_not_mem hbreak, List.filterMap_cons, hobjection]
  · cases ((ImageRef.read? isBlank r).map Prod.fst).bind judgeBase <;> rfl
  · rw [lines_of_not_mem hbreak, List.forall_mem_singleton]
    exact hnames

/-- A Dockerfile in which no line ends behind its keyword gives at most one objection for each line,
in the order of the lines, and the line alone decides which. -/
theorem base_images_are_judged_line_by_line :
    (∀ content, (∀ l ∈ lines content, ¬ NamesNothing (unmarked l)) →
      dockerfile content = (lines content).filterMap objection?) ∧
    ∀ l f, objection? l = some f ↔ Objected (unmarked l) f :=
  ⟨fun _ => dockerfile_eq_filterMap_lines, fun _ _ => objection?_eq_some_iff⟩

/-- Keywords that are none, a tag that is missing, and stages with names like tags. -/
theorem lines_that_name_no_image_are_passed_over :
    let content := ("+FROM a:latest\n++FROM b\nFROM :c\n+FROM d:\nFROM\t e:1.2\r\n" ++
      "FROM f:1.2.3\n FROM g\nFROMAGE h\nFROM i AS j:k\n+FROM l:7 AS latest").toList
    (∀ l ∈ lines content, ¬ NamesNothing (unmarked l)) ∧
      dockerfile content =
        [.baseFloating ['a'] "latest".toList, .baseUntagged ['d'],
          .baseFloating ['e'] "1.2".toList, .baseUntagged ['i'], .baseFloating ['l'] ['7']] := by
  intro content
  have hnames : ∀ l ∈ lines content, ¬ NamesNothing (unmarked l) := by decide +kernel
  refine ⟨hnames, ?_⟩
  rw [base_images_are_judged_line_by_line.1 content hnames]
  decide +kernel

/-- Without that, an image is found that stands on no line with a keyword. -/
example : dockerfile "FROM \n+RUN make".toList = [.baseUntagged "RUN".toList] := by decide +kernel

end PinGate.Check
