-- Workflows line by line, and uses one by one. A use is read on its own line unless the line ends
-- behind the key, and what follows the key is judged by its first word alone: it is cut at the first
-- sign `@`, and only a full version behind the sign is passed.
import PinGate.Check.Workflow
import PinGate.Proofs.Text.Numbers
import PinGate.Proofs.Text.Search
import PinGate.Proofs.Text.Words

namespace PinGate.Check

open Text

namespace ActionUse

/-- The key in front of an action. -/
def key : Text := "uses:".toList

/-- Whether a line ends with the key, or with the key and blanks. -/
def EndsOpen (l : Text) : Prop := ∃ gap ∈ blanks, key ++ gap <:+ l

/-- The letter v and three numbers joined by points. -/
def IsPinned (ref : Text) : Prop :=
  ∃ major minor patch, ref = 'v' :: (major ++ '.' :: (minor ++ '.' :: patch)) ∧
    isNumber major = true ∧ isNumber minor = true ∧ isNumber patch = true

section

variable {content l t b s r ref : Text}

theorem endsOpen_iff : EndsOpen l ↔
    ∃ t ∈ l.tails, ∃ gap ∈ dropPrefix? key t, ∀ c ∈ gap, isBlank c = true := by
  simp only [EndsOpen, List.mem_tails, ← eq_append_blanks_iff]
  constructor
  · rintro ⟨gap, hgap, hl⟩
    exact ⟨_, hl, gap, hgap, rfl⟩
  · rintro ⟨_, hl, gap, hgap, rfl⟩
    exact ⟨gap, hgap, hl⟩

instance : DecidablePred EndsOpen := fun _ => decidable_of_iff' _ endsOpen_iff

/-! ## Line by line -/

/-- Behind a key that does not end its line something stands before the line feed. -/
theorem skipBlanks_ne_nil (h : ∀ l ∈ lines content, ¬ EndsOpen l)
    (ht : key ++ r ++ '\n' :: b <:+ content) : skipBlanks r ≠ [] := by
  intro hnil
  obtain ⟨a, rfl⟩ := ht
  rw [skipBlanks_eq_nil_iff] at hnil
  -- The blanks may hold line feeds of their own; those in front of the first one end the line.
  have hfirst : ∃ gap rest, r ++ '\n' :: b = gap ++ '\n' :: rest ∧ gap ∈ blanks ∧ '\n' ∉ gap := by
    by_cases hr : '\n' ∈ r
    · obtain ⟨gap, rest, rfl, hgap⟩ := List.eq_append_cons_of_mem hr
      exact ⟨gap, rest ++ '\n' :: b, by simp, fun c hc => hnil c (by simp [hc]), hgap⟩
    · exact ⟨r, b, rfl, hnil, hr⟩
  obtain ⟨gap, rest, hsplit, hgap, hbreak⟩ := hfirst
  have hkey : '\n' ∉ key ++ gap := by
    rw [List.mem_append, not_or]
    exact ⟨by decide, hbreak⟩
  obtain ⟨l, hl, hopen⟩ := exists_line_of_suffix hkey a
  apply h l _ ⟨gap, hgap, hopen⟩
  rw [List.append_assoc, hsplit, ← List.append_assoc, ← List.append_assoc, List.append_assoc a,
    lines_append]
  exact List.mem_append_left _ hl

theorem readsAlone_read (h : ∀ l ∈ lines content, ¬ EndsOpen l) (ht : t ++ '\n' :: b <:+ content) :
    ReadsAlone read? t ('\n' :: b) := by
  have hkey := dropPrefix?_append (w := '\n') (p := key) (by decide) t b
  unfold key at hkey
  unfold ReadsAlone read?
  rw [hkey]
  cases hr : dropPrefix? "uses:".toList t with
  | none => rfl
  | some r =>
    obtain rfl := dropPrefix?_eq_some_iff.1 hr
    simp only [Option.map_some, Option.bind_eq_bind, Option.bind_some,
      skipSomeBlanks?_append_of_ne_nil (skipBlanks_ne_nil h ht)]
    cases skipSomeBlanks? r with
    | none => rfl
    | some u =>
      refine ReadsAlone.bind (readsAlone_run rfl u b) fun action u => ?_
      refine ReadsAlone.behind_dropPrefix? (by decide) (fun u => ?_) u
      exact ReadsAlone.bind (readsAlone_run rfl u b) fun ref u => rfl

theorem leavesTail_read : LeavesTail read? := by
  intro s u r h
  simp only [read?, Option.bind_eq_bind, Option.bind_eq_some_iff, Prod.exists, Option.pure_def,
    Option.some.injEq, Prod.mk.injEq] at h
  obtain ⟨s₁, h₁, s₂, h₂, a, s₃, h₃, s₄, h₄, v, s₅, h₅, -, rfl⟩ := h
  obtain ⟨-, gap, -, rfl⟩ := skipSomeBlanks?_eq_some_iff.1 h₂
  exact (run?_suffix h₅).trans <| (dropPrefix?_suffix h₄).trans <| (run?_suffix h₃).trans <|
    (List.suffix_append gap s₂).trans (dropPrefix?_suffix h₁)

theorem beginsWith_read : BeginsWith read? key := by
  intro s u r h
  simp only [read?, Option.bind_eq_bind, Option.bind_eq_some_iff] at h
  obtain ⟨s₁, h₁, -⟩ := h
  exact ⟨s₁, (dropPrefix?_eq_some_iff.1 h₁).symm⟩

/-! ## One place -/

/-- What is read behind a key and blanks. -/
theorem read?_key {gap : Text} (hgap : gap ∈ someBlanks) (ht : IsBare t) :
    read? (key ++ (gap ++ t)) = (run? (fun c => c != '@' && !isBlank c) t).bind fun p =>
      (dropPrefix? ['@'] p.2).bind fun t =>
        (run? (fun c => !isBlank c) t).map fun q => (⟨p.1, q.1⟩, q.2) := by
  have hkey : dropPrefix? "uses:".toList (key ++ (gap ++ t)) = some (gap ++ t) := rfl
  have hskip : skipSomeBlanks? (gap ++ t) = some t :=
    skipSomeBlanks?_eq_some_iff.2 ⟨ht, gap, hgap, rfl⟩
  unfold read?
  rw [hkey]
  simp only [Option.bind_eq_bind, Option.bind_some, hskip, Option.pure_def, Option.map_eq_bind]
  rfl

/-- An action is made of characters of the text. -/
theorem action_subset {u : ActionUse} (h : u ∈ all s) : u.action ⊆ s := by
  obtain ⟨t, r, ht, hread⟩ := exists_read_of_mem_findAll leavesTail_read h
  simp only [read?, Option.bind_eq_bind, Option.bind_eq_some_iff, Prod.exists, Option.pure_def,
    Option.some.injEq, Prod.mk.injEq] at hread
  obtain ⟨s₁, h₁, s₂, h₂, action, s₃, h₃, _, -, _, _, -, rfl, -⟩ := hread
  obtain ⟨-, -, -, rfl⟩ := run?_eq_some_iff_append.1 h₃
  obtain ⟨-, gap, -, rfl⟩ := skipSomeBlanks?_eq_some_iff.1 h₂
  intro c hc
  exact ht.subset ((dropPrefix?_suffix h₁).subset (by simp [hc]))

/-! ## Versions -/

theorem isFullVersion_iff : isFullVersion ref = true ↔ IsPinned ref := by
  have hpoint {n : Text} (hn : isNumber n = true) : '.' ∉ n := by
    intro hmem
    rw [isNumber_of_mem hmem (by decide)] at hn
    cases hn
  constructor
  · intro h
    unfold isFullVersion at h
    split at h
    · next version =>
      split at h
      · next major minor patch hsplit =>
        have hversion : ['.'].intercalate (version.splitOn '.') = version :=
          List.intercalate_splitOn '.'
        rw [hsplit] at hversion
        rw [Bool.and_eq_true, Bool.and_eq_true] at h
        refine ⟨major, minor, patch, ?_, h.1.1, h.1.2, h.2⟩
        rw [← hversion]
        simp [List.intercalate]
      · cases h
    · cases h
  · rintro ⟨major, minor, patch, rfl, hmajor, hminor, hpatch⟩
    have hsplit : (major ++ '.' :: (minor ++ '.' :: patch)).splitOn '.' =
        [major, minor, patch] := by
      rw [List.splitOn_append_cons_self, List.splitOn_append_cons_self,
        List.splitOn_eq_singleton (hpoint hmajor), List.splitOn_eq_singleton (hpoint hminor),
        List.splitOn_eq_singleton (hpoint hpatch)]
      rfl
    simp [isFullVersion, hsplit, hmajor, hminor, hpatch]

instance : DecidablePred IsPinned := fun _ => decidable_of_iff _ isFullVersion_iff

/-- The two branches that are told by name are no full versions anyway. -/
theorem isLoose_iff {u : ActionUse} : u.isLoose = true ↔ ¬ IsPinned u.ref := by
  have hmain : isFullVersion "main".toList = false := rfl
  have hmaster : isFullVersion "master".toList = false := rfl
  unfold isLoose
  rw [← isFullVersion_iff, Bool.or_eq_true, Bool.or_eq_true, beq_iff_eq, beq_iff_eq]
  constructor
  · rintro ((h | h) | h)
    · rw [h, hmain]
      exact Bool.false_ne_true
    · rw [h, hmaster]
      exact Bool.false_ne_true
    · simpa using h
  · intro h
    exact .inr (by simpa using h)

end

end ActionUse

/-! ## One use -/

open ActionUse

/-- A line with one key: what stands in front of it, blanks, a first word, and the rest. -/
structure UseLine where
  before : Text
  gap : Text
  token : Text
  after : Text
  before_free : ¬ key <:+: before
  gap_blank : gap ∈ someBlanks
  token_ne : token ≠ []
  token_whole : ∀ c ∈ token, isBlank c = false
  token_free : ¬ key <:+: token
  after_apart : ∀ c ∈ after.head?, isBlank c = true
  after_free : ¬ key <:+: after

namespace UseLine

variable (u : UseLine) {action ref : Text}

/-- The line itself. -/
def text : Text := u.before ++ (key ++ (u.gap ++ (u.token ++ u.after)))

/-- What is said about the line: nothing when the first word is no action with a reference behind
the first sign `@`, and else that the reference is no full version, if it is none. -/
structure JudgedByToken : Prop where
  no_action : '@' ∉ u.token ∨ u.token.head? = some '@' ∨
    (∃ action, '@' ∉ action ∧ u.token = action ++ ['@']) → workflow u.text = []
  pinned : ∀ action ref, u.token = action ++ '@' :: ref → '@' ∉ action → action ≠ [] → ref ≠ [] →
    IsPinned ref → workflow u.text = []
  loose : ∀ action ref, u.token = action ++ '@' :: ref → '@' ∉ action → action ≠ [] → ref ≠ [] →
    ¬ IsPinned ref → workflow u.text = [.actionRef action ref]

/-! ### The key -/

theorem not_mem_key {c : Char} (hc : isBlank c = true) : c ∉ key := by
  intro hmem
  have hkey : ∀ k ∈ key, isBlank k = false := by decide
  rw [hkey c hmem] at hc
  cases hc

theorem not_infix_of_blanks {gap s : Text} (hgap : gap ∈ blanks) (hs : ¬ key <:+: s) :
    ¬ key <:+: gap ++ s := by
  induction gap with
  | nil => exact hs
  | cons c gap ih =>
    intro h
    rcases infix_append_cons (a := []) (not_mem_key (hgap c List.mem_cons_self)) h with h | h
    · cases List.infix_nil.1 h
    · exact ih (fun d hd => hgap d (List.mem_cons_of_mem c hd)) h

theorem key_free : ¬ key <:+: u.gap ++ (u.token ++ u.after) := by
  apply not_infix_of_blanks u.gap_blank.2
  intro h
  cases hafter : u.after with
  | nil =>
    rw [hafter, List.append_nil] at h
    exact u.token_free h
  | cons c after =>
    rw [hafter] at h
    have hc : isBlank c = true := u.after_apart c (by rw [hafter]; rfl)
    rcases infix_append_cons (not_mem_key hc) h with h | h
    · exact u.token_free h
    · apply u.after_free
      rw [hafter]
      exact h.trans (List.suffix_cons c after).isInfix

/-- What is said about the line is what is said about the one place where the key stands. -/
theorem workflow_text : workflow u.text =
    (((read? (key ++ (u.gap ++ (u.token ++ u.after)))).map Prod.fst).toList.filter isLoose).map
      fun a => .actionRef a.action a.ref := by
  unfold workflow all text
  rw [findAll_of_one_key (by decide) leavesTail_read beginsWith_read (by decide) u.before_free
    u.key_free]

/-! ### The first word -/

theorem isBare_token : IsBare (u.token ++ u.after) := by
  obtain ⟨c, token, htoken⟩ := List.exists_cons_of_ne_nil u.token_ne
  have hc := u.token_whole c (by rw [htoken]; exact List.mem_cons_self)
  rw [htoken]
  rintro d ⟨⟩
  exact hc

/-- Where the first word ends. -/
theorem run?_token {p : Char → Bool} {w : Text} (hw : w ≠ []) (hp : ∀ c ∈ w, p c = true)
    (hblank : ∀ c, isBlank c = true → p c = false) : run? p (w ++ u.after) = some (w, u.after) :=
  run?_append hw hp fun c hc => hblank c (u.after_apart c hc)

theorem read?_token : read? (key ++ (u.gap ++ (u.token ++ u.after))) =
    (run? (fun c => c != '@' && !isBlank c) (u.token ++ u.after)).bind fun p =>
      (dropPrefix? ['@'] p.2).bind fun t =>
        (run? (fun c => !isBlank c) t).map fun q => (⟨p.1, q.1⟩, q.2) :=
  read?_key u.gap_blank u.isBare_token

theorem read?_of_no_sign (h : '@' ∉ u.token) :
    read? (key ++ (u.gap ++ (u.token ++ u.after))) = none := by
  have hrun : run? (fun c => c != '@' && !isBlank c) (u.token ++ u.after) =
      some (u.token, u.after) := by
    apply u.run?_token u.token_ne
    · intro c hc
      simp [ne_of_mem_of_not_mem hc h, u.token_whole c hc]
    · intro c hc
      simp [hc]
  have hsign : dropPrefix? ['@'] u.after = none := by
    rw [Option.eq_none_iff_forall_ne_some]
    intro r hr
    have hblank := u.after_apart '@' (by rw [dropPrefix?_eq_some_iff.1 hr]; rfl)
    cases hblank
  rw [read?_token, hrun, Option.bind_some, hsign]
  rfl

theorem read?_of_sign_first (h : u.token.head? = some '@') :
    read? (key ++ (u.gap ++ (u.token ++ u.after))) = none := by
  obtain ⟨token, htoken⟩ : ∃ token, u.token = '@' :: token := List.head?_eq_some_iff.1 h
  rw [read?_token, htoken]
  rfl

/-- A first word is cut at its first sign, and the reference is all that stands behind it. -/
theorem read?_of_sign (h : u.token = action ++ '@' :: ref) (hsign : '@' ∉ action)
    (hne : action ≠ []) : read? (key ++ (u.gap ++ (u.token ++ u.after))) =
      (run? (fun c => !isBlank c) (ref ++ u.after)).map fun q => (⟨action, q.1⟩, q.2) := by
  have hrun : run? (fun c => c != '@' && !isBlank c) (u.token ++ u.after) =
      some (action, '@' :: (ref ++ u.after)) := by
    rw [h, List.append_assoc, List.cons_append]
    apply run?_append hne
    · intro c hc
      have hwhole := u.token_whole c (by rw [h]; exact List.mem_append_left _ hc)
      simp [ne_of_mem_of_not_mem hc hsign, hwhole]
    · rintro c ⟨⟩
      rfl
  rw [read?_token, hrun]
  rfl

theorem workflow_of_sign (h : u.token = action ++ '@' :: ref) (hsign : '@' ∉ action)
    (hne : action ≠ []) (href : ref ≠ []) :
    workflow u.text = if isLoose ⟨action, ref⟩ then [.actionRef action ref] else [] := by
  have hrun : run? (fun c => !isBlank c) (ref ++ u.after) = some (ref, u.after) := by
    apply u.run?_token href
    · intro c hc
      have hwhole := u.token_whole c (by rw [h]; simp [hc])
      simp [hwhole]
    · intro c hc
      simp [hc]
  rw [workflow_text, u.read?_of_sign h hsign hne, hrun]
  by_cases hloose : isLoose ⟨action, ref⟩ = true <;> simp [hloose]

theorem judgedByToken : u.JudgedByToken where
  no_action := by
    have hnone (h : read? (key ++ (u.gap ++ (u.token ++ u.after))) = none) :
        workflow u.text = [] := by
      rw [workflow_text, h]
      rfl
    rintro (h | h | ⟨action, hsign, h⟩)
    · exact hnone (u.read?_of_no_sign h)
    · exact hnone (u.read?_of_sign_first h)
    · by_cases hne : action = []
      · exact hnone (u.read?_of_sign_first (by rw [h, hne]; rfl))
      · apply hnone
        rw [u.read?_of_sign h hsign hne, List.nil_append]
        cases hafter : u.after with
        | nil => rfl
        | cons c after =>
          have hc : isBlank c = true := u.after_apart c (by rw [hafter]; rfl)
          simp [run?, hc]
  pinned := by
    intro action ref h hsign hne href hpinned
    rw [u.workflow_of_sign h hsign hne href, if_neg]
    rw [isLoose_iff]
    exact not_not_intro hpinned
  loose := by
    intro action ref h hsign hne href hpinned
    rw [u.workflow_of_sign h hsign hne href, if_pos (isLoose_iff.2 hpinned)]

end UseLine

/-! ## Line by line -/

/-- A workflow in which no line ends behind the key is judged line by line, and a line with one key
by the first word behind it. -/
theorem uses_are_judged_on_their_lines :
    (∀ content, (∀ l ∈ lines content, ¬ EndsOpen l) →
      workflow content = (lines content).flatMap workflow) ∧
    ∀ u : UseLine, u.JudgedByToken := by
  refine ⟨?_, UseLine.judgedByToken⟩
  intro content h
  have hall : ActionUse.all content = (lines content).flatMap ActionUse.all :=
    findAll_eq_flatMap_lines leavesTail_read content fun _ _ => readsAlone_read h
  unfold workflow
  rw [hall, List.filter_flatMap, List.map_flatMap]

/-- A use with a sign too many, behind a word that is nearly the key. -/
def twoSigns : UseLine where
  before := "+ # uses - ".toList
  gap := " \t".toList
  token := "actions/setup@@v1.2.3".toList
  after := " # or v1.2.3".toList
  before_free := by decide
  gap_blank := ⟨by decide, (by decide : ∀ c ∈ " \t".toList, isBlank c = true)⟩
  token_ne := by decide
  token_whole := by decide
  token_free := by decide
  after_apart := by
    rintro c ⟨⟩
    rfl
  after_free := by decide

/-- A local use takes nothing from the lines below it, and a comment is read like all else. -/
theorem local_uses_take_nothing_from_other_lines :
    let content :=
      "+- uses: ./own\n+- uses: a/b@main # uses: c@v1.2.3\n  uses:d@v1\n+ uses: e@v1.2.3.4\r".toList
    (∀ l ∈ lines content, ¬ EndsOpen l) ∧
      workflow content =
        [.actionRef "a/b".toList "main".toList, .actionRef ['e'] "v1.2.3.4".toList] ∧
      workflow twoSigns.text = [.actionRef "actions/setup".toList "@v1.2.3".toList] := by
  intro content
  obtain ⟨hlines, huse⟩ := uses_are_judged_on_their_lines
  have hclosed : ∀ l ∈ lines content, ¬ EndsOpen l := by decide +kernel
  refine ⟨hclosed, ?_, ?_⟩
  · rw [hlines content hclosed]
    decide +kernel
  · exact (huse twoSigns).loose _ _ rfl (by decide) (by decide) (by decide) (by decide)

end PinGate.Check
