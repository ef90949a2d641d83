-- Line feeds of what is shown. Where a row is long enough, a message behind a sign gains none but
-- the one that ends it, so what is told without a line feed is told on one line. Codes for emoji
-- make no difference, because no picture in the table has a control in it.
import PinGate.Proofs.Text.Search
import PinGate.Terminal.Console

namespace PinGate.Terminal

open Text

variable {s r piece : Text} {c : Char} {p : Char → Bool}

/-! ## Pictures -/

/-- The texts of the table, taken from its lines one by one, because reading a line as a text takes
long. -/
theorem map_ofList_cons {l : String} {ls : List String} {t : Text} {ts : List Text}
    (hl : String.ofList t = l) (hls : ts.map String.ofList = ls) :
    (t :: ts).map String.ofList = l :: ls := by
  rw [List.map_cons, hl, hls]

set_option maxRecDepth 8000 in
theorem emojiLines_eq_map :
    ∃ ts : List Text, ts.map String.ofList = emojiLines ∧
      ts.all (fun t => t.all fun c => Nat.blt 10 c.toNat) := by
  constructor
  constructor
  · unfold emojiLines
    repeat (apply map_ofList_cons; apply Eq.refl)
    exact List.map_nil
  · decide +kernel

theorem not_mem_emojiLine {l : String} (h : l ∈ emojiLines) : '\n' ∉ l.toList := by
  obtain ⟨ts, hts, hcontrol⟩ := emojiLines_eq_map
  rw [← hts] at h
  obtain ⟨t, ht, rfl⟩ := List.mem_map.1 h
  rw [String.toList_ofList]
  intro hfeed
  exact absurd (List.all_eq_true.1 (List.all_eq_true.1 hcontrol t ht) _ hfeed) (by decide)

namespace Emoji

variable {e : Emoji} {name code picture : Text}

theorem not_mem_picture (h : e ∈ all) : '\n' ∉ e.picture := by
  obtain ⟨l, hl, he⟩ := List.mem_flatMap.1 h
  obtain ⟨entry, hentry, rfl⟩ := List.mem_map.1 he
  intro hfeed
  have hrest := List.mem_of_mem_drop hfeed
  have hmem : '\n' ∈ entry := (List.dropWhile_suffix _).subset hrest
  exact not_mem_emojiLine hl (mem_of_mem_splitOn hentry hmem)

theorem not_mem_inTone {tone : Char} (ht : tone ≠ '\n') (h : '\n' ∉ picture) :
    '\n' ∉ inTone tone picture := by
  cases picture with
  | nil => simp [inTone]
  | cons c r =>
    obtain ⟨hc, hr⟩ := not_or.1 (mt List.mem_cons.2 h)
    have hdrop : '\n' ∉ r.drop 1 := fun hmem => hr (List.mem_of_mem_drop hmem)
    simp only [inTone, List.mem_cons, not_or]
    refine ⟨hc, ht.symm, ?_⟩
    split
    · exact hdrop
    · exact hr

theorem not_mem_ofName? (h : ofName? name = some picture) : '\n' ∉ picture := by
  unfold ofName? at h
  split at h
  · next e he =>
    obtain rfl := Option.some.inj h
    exact not_mem_picture (List.mem_of_find?_eq_some he)
  · obtain ⟨⟨words, tone⟩, htone, hpicture⟩ := List.exists_of_findSome?_eq_some h
    have hne : ∀ x ∈ tones, x.2 ≠ '\n' := by decide
    dsimp only at hpicture
    split at hpicture
    · obtain ⟨e, he, rfl⟩ := Option.map_eq_some_iff.1 hpicture
      exact not_mem_inTone (hne _ htone) (not_mem_picture (List.mem_of_find?_eq_some he))
    · cases hpicture

theorem not_mem_ofCode? (h : ofCode? code = some picture) : '\n' ∉ picture := by
  have hform : ∀ sign ≠ '\n', ∀ name, (ofName? name).map (· ++ [sign]) = some picture →
      '\n' ∉ picture := by
    intro sign hsign name hname
    obtain ⟨p, hp, rfl⟩ := Option.map_eq_some_iff.1 hname
    simp [not_mem_ofName? hp, hsign.symm]
  unfold ofCode? at h
  split at h
  · exact hform _ (by decide) _ h
  · split at h
    · exact hform _ (by decide) _ h
    · exact not_mem_ofName? h

theorem count_dropWhile (h : p '\n' = false) (s : Text) :
    (s.dropWhile p).count '\n' = s.count '\n' := by
  induction s with
  | nil => rfl
  | cons c s ih =>
    by_cases hc : p c = true
    · have hne : c ≠ '\n' := by
        rintro rfl
        simp [h] at hc
      rw [List.dropWhile_cons_of_pos hc, ih, List.count_cons_of_ne hne]
    · rw [List.dropWhile_cons_of_neg hc]

theorem count_of_readCode? {shown : Text} (h : readCode? s = some (shown, r)) :
    shown.count '\n' + r.count '\n' = s.count '\n' := by
  unfold readCode? at h
  split at h
  · next cs =>
    split at h
    · next rest hrest =>
      obtain ⟨rfl, rfl⟩ := Prod.mk.inj (Option.some.inj h)
      have hcode : '\n' ∉ cs.takeWhile isCodeChar := by
        intro hfeed
        have hchar := List.mem_takeWhile_imp hfeed
        cases hchar
      have hshown : '\n' ∉
          (ofCode? (cs.takeWhile isCodeChar)).getD (':' :: cs.takeWhile isCodeChar ++ [':']) := by
        cases hpicture : ofCode? (cs.takeWhile isCodeChar) with
        | none => simp [hcode]
        | some picture => exact not_mem_ofCode? hpicture
      have hcount := count_dropWhile (p := isCodeChar) (by decide) cs
      rw [hrest] at hcount
      rw [List.count_eq_zero.2 hshown, List.count_cons_of_ne (by decide), ← hcount,
        List.count_cons_of_ne (by decide), Nat.zero_add]
    · cases h
  · cases h

theorem render_of_some {shown : Text} (h : readCode? s = some (shown, r)) :
    render s = shown ++ render r := by
  rw [render]
  split
  · next shown' r' h' =>
    obtain ⟨rfl, rfl⟩ := Prod.mk.inj (Option.some.inj (h.symm.trans h'))
    rfl
  · next h' => cases h.symm.trans h'

theorem count_render (s : Text) : (render s).count '\n' = s.count '\n' := by
  induction s using render.induct with
  | case1 s shown r h ih => rw [render_of_some h, List.count_append, ih, count_of_readCode? h]
  | case2 => rw [render_nil]
  | case3 c s h ih => rw [render_of_none h, List.count_cons, List.count_cons, ih]

end Emoji

/-! ## Markup -/

theorem readMarkup?_eq_append (h : readMarkup? s = some (piece, r)) : piece ++ r = s := by
  unfold readMarkup? at h
  split at h
  · next c cs =>
    split at h
    · split at h
      · next rest hrest =>
        obtain ⟨rfl, rfl⟩ := Prod.mk.inj (Option.some.inj h)
        have hcs := List.takeWhile_append_dropWhile (p := fun d => d != '[' && d != ']') (l := cs)
        rw [hrest] at hcs
        simp [hcs]
      · cases h
    · cases h
  · cases h

theorem flatten_consSegment (c : Char) (ss : List Text) :
    (consSegment c ss).flatten = c :: ss.flatten := by
  cases ss <;> rfl

theorem segments_of_some (h : readMarkup? s = some (piece, r)) :
    segments s = [] :: piece :: segments r := by
  rw [segments]
  split
  · next piece' r' h' =>
    obtain ⟨rfl, rfl⟩ := Prod.mk.inj (Option.some.inj (h.symm.trans h'))
    rfl
  · next h' => cases h.symm.trans h'

/-- Nothing is lost between the segments. -/
theorem flatten_segments (s : Text) : (segments s).flatten = s := by
  induction s using segments.induct with
  | case1 s piece r h ih =>
    rw [segments_of_some h, List.flatten_cons, List.flatten_cons, ih, List.nil_append,
      readMarkup?_eq_append h]
  | case2 => rw [segments_nil, List.flatten_nil]
  | case3 c s h ih => rw [segments_of_none h, flatten_consSegment, ih]

theorem count_flatMap_render (ss : List Text) :
    (ss.flatMap Emoji.render).count '\n' = ss.flatten.count '\n' := by
  induction ss with
  | nil => rfl
  | cons s ss ih =>
    rw [List.flatMap_cons, List.flatten_cons, List.count_append, List.count_append, ih,
      Emoji.count_render]

theorem count_dropEscapes (s : Text) : (dropEscapes s).count '\n' = s.count '\n' := by
  induction s using dropEscapes.induct with
  | case1 => rfl
  | case2 r h ih => simp [dropEscapes, h, ih]
  | case3 r h ih => simp [dropEscapes, h, ih]
  | case4 c r hc ih => rw [dropEscapes.eq_3 c r hc, List.count_cons, List.count_cons, ih]

theorem count_closeEscape (s : Text) : (closeEscape s).count '\n' = s.count '\n' := by
  unfold closeEscape
  split
  · simp
  · rfl

theorem count_plain (message : Text) : (plain message).count '\n' = message.count '\n' := by
  unfold plain
  rw [count_flatMap_render, flatten_segments, count_dropEscapes, count_closeEscape]

/-! ## Lines -/

theorem count_joinAtStops (column : Nat) (ps : List Text) :
    (joinAtStops column ps).count '\n' = ps.flatten.count '\n' := by
  induction column, ps using joinAtStops.induct with
  | case1 => rfl
  | case2 => simp [joinAtStops]
  | case3 column piece next more piece' behind ih =>
    have hjoin : joinAtStops column (piece :: next :: more) = piece' ++
        List.replicate (toStop behind) ' ' ++ joinAtStops (behind + toStop behind) (next :: more) :=
      rfl
    rw [hjoin, List.count_append, List.count_append, ih, List.flatten_cons, List.count_append,
      List.count_append, List.count_replicate, List.count_singleton]
    simp

theorem not_mem_expandTabs (h : '\n' ∉ s) : '\n' ∉ expandTabs s := by
  have hpieces : '\n' ∉ (s.splitOn '\t').flatten := by
    intro hfeed
    obtain ⟨piece, hpiece, hmem⟩ := List.mem_flatten.1 hfeed
    exact h (mem_of_mem_splitOn hpiece hmem)
  unfold expandTabs
  rw [← List.count_eq_zero, count_joinAtStops, List.count_eq_zero]
  exact hpieces

theorem prefix_joinAtStops (column : Nat) (piece : Text) (ps : List Text) :
    piece <+: joinAtStops column (piece :: ps) := by
  cases ps with
  | nil => exact List.prefix_rfl
  | cons next more =>
    rw [joinAtStops, List.append_assoc, List.append_assoc]
    exact List.prefix_append _ _

/-- Up to the first tab nothing is changed. -/
theorem prefix_expandTabs {a : Text} (h : '\t' ∉ a) (s : Text) : a <+: expandTabs (a ++ s) := by
  have hfirst : ∃ l ps, (a ++ s).splitOn '\t' = (a ++ l) :: ps := by
    by_cases hs : '\t' ∈ s
    · obtain ⟨l, b, rfl, hl⟩ := List.eq_append_cons_of_mem hs
      have hal : '\t' ∉ a ++ l := by simp [h, hl]
      refine ⟨l, b.splitOn '\t', ?_⟩
      rw [← List.append_assoc, List.splitOn_append_cons_self, List.splitOn_eq_singleton hal]
      rfl
    · exact ⟨s, [], List.splitOn_eq_singleton (by simp [h, hs])⟩
  obtain ⟨l, ps, hsplit⟩ := hfirst
  unfold expandTabs
  rw [hsplit]
  exact (List.prefix_append a l).trans (prefix_joinAtStops 0 _ ps)

/-- A message without line feeds is one line behind its sign. -/
theorem line_of_not_mem {message : Text} (h : '\n' ∉ message) (sign : Sign) :
    ∃ t, '\n' ∉ t ∧ line sign message = sign.symbol :: ' ' :: t ++ ['\n'] := by
  have hplain : '\n' ∉ plain message := by
    rw [← List.count_eq_zero, count_plain, List.count_eq_zero]
    exact h
  let rest := (plain message).filter fun c => !isHidden c
  have hfilter : (sign.symbol :: ' ' :: plain message).filter (fun c => !isHidden c) =
      [sign.symbol, ' '] ++ rest := by
    cases sign <;> rfl
  have hrest : '\n' ∉ [sign.symbol, ' '] ++ rest := by
    have hsign : '\n' ∉ [sign.symbol, ' '] := by cases sign <;> decide
    exact List.not_mem_append hsign fun hmem => hplain (List.mem_of_mem_filter hmem)
  have htab : '\t' ∉ [sign.symbol, ' '] := by cases sign <;> decide
  obtain ⟨t, ht⟩ := prefix_expandTabs htab rest
  have hshown := not_mem_expandTabs hrest
  rw [← ht] at hshown
  refine ⟨t, fun hmem => hshown (List.mem_append_right _ hmem), ?_⟩
  unfold line shown
  rw [hfilter, lines_of_not_mem hrest, List.map_singleton, ← ht, unlines,
    List.intercalate_singleton]
  rfl

end PinGate.Terminal
