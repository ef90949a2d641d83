-- The laws of searches. Where no reader looks past a separator, a search of a text with it finds
-- what is found on its one side and then what is found on its other side. Where a reader begins
-- with a key, a text in which the key stands once has one place to read at.
import Mathlib.Data.List.TakeWhile
import PinGate.Proofs.Text.Lines
import PinGate.Proofs.Text.Parts
import PinGate.Text.Blank
import PinGate.Text.Search

namespace PinGate.Text

variable {α : Type} {w : Char} {s b r : Text}

/-! ## Readers in front of a separator -/

/-- Whether a reader takes from a text the same with `b` behind it, and leaves `b` over. -/
def ReadsAlone (read? : Text → Option (α × Text)) (s b : Text) : Prop :=
  read? (s ++ b) = (read? s).map fun p => (p.1, p.2 ++ b)

theorem dropPrefix?_append {p : Text} (h : w ∉ p) (s b : Text) :
    dropPrefix? p (s ++ w :: b) = (dropPrefix? p s).map (· ++ w :: b) := by
  induction p generalizing s with
  | nil => rfl
  | cons k p ih =>
    simp only [List.mem_cons, not_or] at h
    cases s with
    | nil => simp [dropPrefix?, Ne.symm h.1]
    | cons c s =>
      by_cases hc : k = c
      · simp [dropPrefix?, hc, ih h.2]
      · simp [dropPrefix?, hc]

theorem takeWhile_append_stop {p : Char → Bool} (h : p w = false) (s b : Text) :
    (s ++ w :: b).takeWhile p = s.takeWhile p := by
  induction s with
  | nil => simp [h]
  | cons c s ih => simp [List.takeWhile_cons, ih]

theorem takeWhile_of_not_mem (h : w ∉ s) : s.takeWhile (· != w) = s := by
  rw [List.takeWhile_eq_self_iff]
  intro c hc
  simpa using ne_of_mem_of_not_mem hc h

theorem splitOnce?_append (h : w ∉ s) (b : Text) : splitOnce? w (s ++ w :: b) = some (s, b) := by
  have hdrop : s.dropWhile (· != w) = [] := by
    rw [List.dropWhile_eq_nil_iff]
    intro c hc
    simpa using ne_of_mem_of_not_mem hc h
  unfold splitOnce?
  rw [dropWhile_append_stop (by simp), hdrop, takeWhile_append_stop (by simp),
    takeWhile_of_not_mem h]
  rfl

/-- A text is cut at the first of the characters that part it. -/
theorem splitOnce?_eq_some_iff : splitOnce? w s = some (r, b) ↔ w ∉ r ∧ s = r ++ w :: b := by
  constructor
  · intro h
    have hw : w ∈ s := by
      by_contra hw
      rw [splitOnce?, List.dropWhile_eq_nil_iff.2] at h
      · cases h
      · intro c hc
        simpa using ne_of_mem_of_not_mem hc hw
    obtain ⟨a, t, rfl, ha⟩ := List.eq_append_cons_of_mem hw
    rw [splitOnce?_append ha] at h
    cases h
    exact ⟨ha, rfl⟩
  · rintro ⟨hw, rfl⟩
    exact splitOnce?_append hw b

theorem readsAlone_run {p : Char → Bool} (h : p w = false) (s b : Text) :
    ReadsAlone (run? p) s (w :: b) := by
  unfold ReadsAlone
  cases s with
  | nil => simp [run?, h]
  | cons c s =>
    by_cases hc : p c = true
    · simp [run?, hc, takeWhile_append_stop h, dropWhile_append_stop h]
    · simp [run?, hc]

/-- A reader in front of another one that stops at the same place. -/
theorem ReadsAlone.bind {β : Type} {read? : Text → Option (α × Text)}
    {next? : α × Text → Option (β × Text)} (h : ReadsAlone read? s b)
    (hnext : ∀ a r, ReadsAlone (fun r => next? (a, r)) r b) :
    ReadsAlone (fun s => (read? s).bind next?) s b := by
  unfold ReadsAlone at *
  dsimp only
  rw [h]
  cases read? s with
  | none => rfl
  | some p => exact hnext p.1 p.2

theorem ReadsAlone.behind_dropPrefix? {p : Text} {next? : Text → Option (α × Text)}
    (hp : w ∉ p) (hnext : ∀ r, ReadsAlone next? r (w :: b)) (s : Text) :
    ReadsAlone (fun s => (dropPrefix? p s).bind next?) s (w :: b) := by
  unfold ReadsAlone at *
  dsimp only
  rw [dropPrefix?_append hp]
  cases dropPrefix? p s with
  | none => rfl
  | some r => exact hnext r

/-- Blanks are skipped without a look at what stands behind something else. -/
theorem skipBlanks_append_of_ne_nil (h : skipBlanks s ≠ []) (b : Text) :
    skipBlanks (s ++ b) = skipBlanks s ++ b := by
  unfold skipBlanks at h ⊢
  rw [List.dropWhile_append, if_neg (by simpa using h)]

theorem skipSomeBlanks?_append_of_ne_nil (h : skipBlanks s ≠ []) (b : Text) :
    skipSomeBlanks? (s ++ b) = (skipSomeBlanks? s).map (· ++ b) := by
  cases s with
  | nil => exact absurd rfl h
  | cons c s =>
    by_cases hc : isBlank c = true
    · have hs : skipBlanks s ≠ [] := by rwa [skipBlanks, List.dropWhile_cons_of_pos hc] at h
      simp [skipSomeBlanks?, hc, skipBlanks_append_of_ne_nil hs]
    · simp [skipSomeBlanks?, hc]

theorem skipBlanks_eq_nil_iff : skipBlanks s = [] ↔ ∀ c ∈ s, isBlank c = true :=
  List.dropWhile_eq_nil_iff

/-! ## Searches -/

theorem dropPrefix?_suffix {p : Text} (h : dropPrefix? p s = some r) : r <:+ s :=
  ⟨p, (dropPrefix?_eq_some_iff.1 h).symm⟩

theorem run?_suffix {p : Char → Bool} {t : Text} (h : run? p s = some (t, r)) : r <:+ s := by
  obtain ⟨-, -, rfl⟩ := run?_eq_some_iff.1 h
  exact List.dropWhile_suffix p

theorem skipBlanks_suffix (s : Text) : skipBlanks s <:+ s := List.dropWhile_suffix isBlank

/-- Whether a reader leaves over only what stands at the end of the text. -/
def LeavesTail (read? : Text → Option (α × Text)) : Prop :=
  ∀ s a r, read? s = some (a, r) → r <:+ s

/-- A search goes on behind a separator as it would begin there, when from no place in front of
the separator the reader looks past it. -/
theorem findAll_append {p : Recogniser α} (hp : LeavesTail p.read?)
    (h : ∀ t, t <:+ s → ReadsAlone p.read? t (w :: b)) :
    findAll p (s ++ w :: b) = findAll p s ++ findAll p b := by
  fun_induction findAll p s with
  | case1 s a r hread ih =>
    have hs : p.read? (s ++ w :: b) = some (a, r ++ w :: b) := by
      rw [h s List.suffix_rfl, hread]
      rfl
    rw [findAll_of_some hs, ih fun t ht => h t (ht.trans (hp s a r hread))]
    rfl
  | case2 hread =>
    have hsep : p.read? (w :: b) = none := by
      have hnil := h [] List.suffix_rfl
      rw [ReadsAlone, hread] at hnil
      exact hnil
    exact findAll_cons_of_none hsep
  | case3 c s hread ih =>
    have hs : p.read? (c :: (s ++ w :: b)) = none := by
      have hcons := h (c :: s) List.suffix_rfl
      rw [ReadsAlone, hread] at hcons
      exact hcons
    rw [List.cons_append, findAll_cons_of_none hs]
    exact ih fun t ht => h t (ht.trans (List.suffix_cons c s))

/-- A search goes line by line when from no place the reader looks past the end of the line. -/
theorem findAll_eq_flatMap_lines {p : Recogniser α} (hp : LeavesTail p.read?) (s : Text)
    (h : ∀ t b, t ++ '\n' :: b <:+ s → ReadsAlone p.read? t ('\n' :: b)) :
    findAll p s = (lines s).flatMap (findAll p) := by
  induction s using by_lines with
  | last l hl => simp [lines_of_not_mem hl]
  | more l b hl ih =>
    have hline : ∀ t, t <:+ l → ReadsAlone p.read? t ('\n' :: b) := by
      intro t ht
      apply h
      obtain ⟨a, rfl⟩ := ht
      exact ⟨a, (List.append_assoc a t _).symm⟩
    have hrest : findAll p b = (lines b).flatMap (findAll p) := by
      apply ih
      intro t b' ht
      apply h
      exact ht.trans ⟨l ++ ['\n'], by simp⟩
    rw [findAll_append hp hline, lines_append, lines_of_not_mem hl, hrest]
    rfl

/-- A search passes over a text from no place of which there is anything to read. -/
theorem findAll_skip {p : Recogniser α} {a : Text}
    (h : ∀ t, t <:+ a → t ≠ [] → p.read? (t ++ s) = none) : findAll p (a ++ s) = findAll p s := by
  induction a with
  | nil => rfl
  | cons c a ih =>
    have hnone : p.read? (c :: (a ++ s)) = none := h (c :: a) List.suffix_rfl (List.cons_ne_nil c a)
    rw [List.cons_append, findAll_cons_of_none hnone]
    exact ih fun t ht => h t (ht.trans (List.suffix_cons c a))

/-- Two readers that read the same from every place find the same. -/
theorem findAll_congr {p q : Recogniser α} (hp : LeavesTail p.read?)
    (h : ∀ t, t <:+ s → p.read? t = q.read? t) : findAll p s = findAll q s := by
  fun_induction findAll p s with
  | case1 s a r hread ih =>
    have hq : q.read? s = some (a, r) := by rw [← h s List.suffix_rfl, hread]
    rw [findAll_of_some hq, ih fun t ht => h t (ht.trans (hp s a r hread))]
  | case2 => rw [findAll_nil]
  | case3 c s hread ih =>
    have hq : q.read? (c :: s) = none := by rw [← h _ List.suffix_rfl, hread]
    rw [findAll_cons_of_none hq]
    exact ih fun t ht => h t (ht.trans (List.suffix_cons c s))

/-- All that a search finds has been read somewhere in the text. -/
theorem exists_read_of_mem_findAll {p : Recogniser α} (hp : LeavesTail p.read?) {a : α}
    (h : a ∈ findAll p s) : ∃ t r, t <:+ s ∧ p.read? t = some (a, r) := by
  fun_induction findAll p s with
  | case1 s b r hread ih =>
    rcases List.mem_cons.1 h with rfl | h
    · exact ⟨s, r, List.suffix_rfl, hread⟩
    · obtain ⟨t, u, ht, hu⟩ := ih h
      exact ⟨t, u, ht.trans (hp s b r hread), hu⟩
  | case2 => cases h
  | case3 c s hread ih =>
    obtain ⟨t, u, ht, hu⟩ := ih h
    exact ⟨t, u, ht.trans (List.suffix_cons c s), hu⟩

/-! ## Keys -/

/-- Whether everything that a reader takes begins with a key. -/
def BeginsWith (read? : Text → Option (α × Text)) (key : Text) : Prop :=
  ∀ s a r, read? s = some (a, r) → key <+: s

section

variable {key a t : Text}

/-- A key stands on one side of a character that is not in it. -/
theorem infix_append_cons (hw : w ∉ key) (h : key <:+: a ++ w :: b) : key <:+: a ∨ key <:+: b := by
  have hnil : ∀ q, q <:+: key → q <+: w :: b → q = [] := by
    intro q hq hqb
    rcases List.prefix_cons_iff.1 hqb with rfl | ⟨q, rfl, -⟩
    · rfl
    · exact absurd (hq.subset List.mem_cons_self) hw
  rcases List.infix_append_iff.1 h with h | h | ⟨q, q', rfl, hqa, hqb⟩
  · exact .inl h
  · rcases List.infix_cons_iff.1 h with h | h
    · rw [hnil key List.infix_rfl h]
      exact .inl (List.nil_infix)
    · exact .inr h
  · rw [hnil q' (List.suffix_append q q').isInfix hqb, List.append_nil]
    exact .inl hqa.isInfix

/-- A search by a key finds nothing where the key does not stand. -/
theorem findAll_of_no_key {p : Recogniser α} (hp : LeavesTail p.read?)
    (hbegins : BeginsWith p.read? key) (hs : ¬ key <:+: s) : findAll p s = [] := by
  rw [List.eq_nil_iff_forall_not_mem]
  intro x hx
  obtain ⟨t, r, ht, hread⟩ := exists_read_of_mem_findAll hp hx
  exact hs ((hbegins t x r hread).isInfix.trans ht.isInfix)

variable (hkey : IsUnbordered key)

include hkey

/-- In front of its one place a key does not begin. -/
theorem not_prefix_before (ha : ¬ key <:+: a) (ht : t <:+ a) (hne : t ≠ []) :
    ¬ key <+: t ++ (key ++ b) := by
  intro h
  rcases le_total key.length t.length with hle | hle
  · have hbegins := List.prefix_of_prefix_length_le h (List.prefix_append t _) hle
    exact ha (hbegins.isInfix.trans ht.isInfix)
  · obtain ⟨q, rfl⟩ := List.prefix_of_prefix_length_le (List.prefix_append t _) h hle
    have hq : q <+: t ++ q :=
      List.prefix_of_prefix_length_le ((List.prefix_append_right_inj t).1 h)
        (List.prefix_append _ b) (by simp)
    by_cases hnil : q = []
    · subst hnil
      rw [List.append_nil] at ha
      exact ha ht.isInfix
    · have heq := hkey q ((List.mem_tails _ _).2 (List.suffix_append t q)) hnil hq
      exact hne (List.append_left_eq_self.1 heq.symm)

/-- Behind its one place a key does not begin either. -/
theorem not_prefix_behind (hb : ¬ key <:+: b) (ht : t <:+ key ++ b)
    (hlt : t.length < (key ++ b).length) : ¬ key <+: t := by
  intro h
  rcases List.suffix_or_suffix_of_suffix ht (List.suffix_append key b) with htb | ⟨q, rfl⟩
  · exact hb (h.isInfix.trans htb.isInfix)
  · obtain ⟨x, hx⟩ := ht
    rw [← List.append_assoc, List.append_left_inj] at hx
    have hq : q <:+ key := ⟨x, hx⟩
    rw [List.length_append, List.length_append] at hlt
    have hprefix : q <+: key :=
      List.prefix_of_prefix_length_le (List.prefix_append q b) h (by omega)
    by_cases hnil : q = []
    · subst hnil
      exact hb h.isInfix
    · rw [hkey q ((List.mem_tails _ _).2 hq) hnil hprefix] at hlt
      exact Nat.lt_irrefl _ hlt

/-- In a text where a key stands once, a search by that key reads at its place alone. -/
theorem findAll_of_one_key {p : Recogniser α} (hp : LeavesTail p.read?)
    (hbegins : BeginsWith p.read? key) (hne : key ≠ []) (ha : ¬ key <:+: a) (hb : ¬ key <:+: b) :
    findAll p (a ++ (key ++ b)) = ((p.read? (key ++ b)).map Prod.fst).toList := by
  have hread : ∀ t, ¬ key <+: t → p.read? t = none := by
    intro t ht
    rw [Option.eq_none_iff_forall_ne_some]
    rintro ⟨x, r⟩ hx
    exact ht (hbegins t x r hx)
  have hbehind : ∀ r, r <:+ key ++ b → r.length < (key ++ b).length → findAll p r = [] := by
    intro r hr hlt
    apply findAll_of_no_key hp hbegins
    intro hinfix
    obtain ⟨t, hkt, ht⟩ := List.infix_iff_prefix_suffix.1 hinfix
    exact not_prefix_behind hkey hb (ht.trans hr) (ht.length_le.trans_lt hlt) hkt
  rw [findAll_skip fun t ht htne => hread _ (not_prefix_before hkey ha ht htne)]
  cases hx : p.read? (key ++ b) with
  | none =>
    obtain ⟨k, q, rfl⟩ := List.exists_cons_of_ne_nil hne
    rw [List.cons_append] at hx hbehind ⊢
    rw [findAll_cons_of_none hx]
    exact hbehind _ (List.suffix_cons k _) (by simp)
  | some x =>
    rw [findAll_of_some hx, hbehind x.2 (hp _ _ _ hx) (p.shorter hx)]
    rfl

end

end PinGate.Text
