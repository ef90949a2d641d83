-- Manifests are judged line by line as long as the value of every image key stands on the line of
-- the key. The blanks behind a key may reach over the end of its line, and what comes next is then
-- taken for the image: the key of a nested mapping, or the marker of an added line.
import PinGate.Check.Manifest
import PinGate.Proofs.Check.Image
import PinGate.Proofs.Text.Words

namespace PinGate.Check

open Text

/-- Whether no value is looked for on a later line than its key: behind a key and blanks with a
line feed among them come only more blanks, or a colon, which begins no value. -/
def ValuesBesideKeys (content : Text) : Prop :=
  ∀ a, ∀ gap ∈ blanks, ∀ v, a ++ (imageKey ++ (gap ++ v)) = content → '\n' ∈ gap →
    ∀ c ∈ v.head?, isBlank c = true ∨ c = ':'

section

variable {content t b r : Text}

theorem valuesBesideKeys_iff : ValuesBesideKeys content ↔
    ∀ t ∈ content.tails, ∀ r ∈ dropPrefix? imageKey t, '\n' ∈ r.takeWhile isBlank →
      (skipBlanks r).head?.all (· == ':') = true := by
  unfold ValuesBesideKeys
  simp only [List.mem_tails, Option.mem_def, Option.all_eq_true, beq_iff_eq]
  constructor
  · rintro h _ ⟨a, rfl⟩ r hr hbreak c hc
    obtain rfl := dropPrefix?_eq_some_iff.1 hr
    have hsplit : r.takeWhile isBlank ++ skipBlanks r = r := List.takeWhile_append_dropWhile
    have hvalue := h a (r.takeWhile isBlank) (fun _ => List.mem_takeWhile_imp) (skipBlanks r)
      (by rw [hsplit]) hbreak c hc
    apply hvalue.resolve_left
    simp [isBare_skipBlanks r c hc]
  · intro h a gap hgap v hs hbreak c hc
    have hr : dropPrefix? imageKey (imageKey ++ (gap ++ v)) = some (gap ++ v) :=
      dropPrefix?_eq_some_iff.2 rfl
    have hkey := h _ ⟨a, hs⟩ _ hr
    rw [List.takeWhile_append_of_pos hgap] at hkey
    by_cases hblank : isBlank c = true
    · exact .inl hblank
    · have hbare : IsBare v := by
        intro d hd
        cases hc.symm.trans hd
        simpa using hblank
      rw [skipBlanks_append hgap hbare] at hkey
      exact .inr (hkey (List.mem_append_left _ hbreak) c hc)

instance : DecidablePred ValuesBesideKeys := fun _ => decidable_of_iff' _ valuesBesideKeys_iff

/-- At the end of a line that ends with a key there is nothing to read. -/
theorem head?_behind_key (h : ValuesBesideKeys content) (ht : t ++ '\n' :: b <:+ content)
    (hr : dropPrefix? imageKey t = some r) (hblank : skipBlanks r = []) :
    ∀ c ∈ (skipBlanks (r ++ '\n' :: b)).head?, c = ':' := by
  have hkey : dropPrefix? imageKey (t ++ '\n' :: b) = some (r ++ '\n' :: b) := by
    rw [dropPrefix?_append (by decide), hr]
    rfl
  have hbreak : '\n' ∈ (r ++ '\n' :: b).takeWhile isBlank := by
    rw [List.takeWhile_append_of_pos (skipBlanks_eq_nil_iff.1 hblank)]
    simp [show isBlank '\n' = true by decide]
  have hcolon := valuesBesideKeys_iff.1 h _ ((List.mem_tails _ _).2 ht) _ hkey hbreak
  intro c hc
  simpa using (Option.all_eq_true _ _).1 hcolon c hc

/-! ## Kubernetes -/

namespace Container

theorem readsAlone_read (h : ValuesBesideKeys content) (ht : t ++ '\n' :: b <:+ content) :
    ReadsAlone read? t ('\n' :: b) := by
  have hkey := dropPrefix?_append (w := '\n') (p := imageKey) (by decide) t b
  unfold ReadsAlone read?
  rw [hkey]
  cases hr : dropPrefix? imageKey t with
  | none => rfl
  | some r =>
    simp only [Option.map_some, Option.bind_eq_bind, Option.bind_some]
    by_cases hblank : skipBlanks r = []
    · rw [hblank, ImageRef.read?_eq_none (head?_behind_key h ht hr hblank)]
      rfl
    · rw [skipBlanks_append_of_ne_nil hblank]
      exact ImageRef.readsAlone_read (by decide) (by decide) (skipBlanks r) b

theorem leavesTail_read : LeavesTail read? := by
  intro s i r h
  simp only [read?, Option.bind_eq_bind, Option.bind_eq_some_iff] at h
  obtain ⟨s₁, h₁, h₂⟩ := h
  exact (ImageRef.leavesTail_read _ _ _ h₂).trans
    ((skipBlanks_suffix s₁).trans (dropPrefix?_suffix h₁))

end Container

/-! ## Compose -/

namespace Service

theorem skipQuote_append (s b : Text) : skipQuote (s ++ '\n' :: b) = skipQuote s ++ '\n' :: b := by
  cases s with
  | nil => rfl
  | cons c s => by_cases hc : isQuote c = true <;> simp [skipQuote, dropOne?, hc]

theorem skipQuote_of_head? {v : Text} (h : ∀ c ∈ v.head?, isQuote c = false) :
    skipQuote v = v := by
  cases v with
  | nil => rfl
  | cons c v => simp [skipQuote, dropOne?, h c rfl]

theorem skipQuote_suffix (s : Text) : skipQuote s <:+ s := by
  cases s with
  | nil => exact List.suffix_rfl
  | cons c s =>
    by_cases hc : isQuote c = true
    · simp [skipQuote, dropOne?, hc]
    · simp [skipQuote, dropOne?, hc]

theorem readsAlone_read (h : ValuesBesideKeys content) (ht : t ++ '\n' :: b <:+ content) :
    ReadsAlone read? t ('\n' :: b) := by
  have hkey := dropPrefix?_append (w := '\n') (p := imageKey) (by decide) t b
  unfold ReadsAlone read?
  rw [hkey]
  cases hr : dropPrefix? imageKey t with
  | none => rfl
  | some r =>
    simp only [Option.map_some, Option.bind_eq_bind, Option.bind_some]
    by_cases hblank : skipBlanks r = []
    · have hhead := head?_behind_key h ht hr hblank
      have hquote : ∀ c ∈ (skipBlanks (r ++ '\n' :: b)).head?, isQuote c = false := by
        intro c hc
        rw [hhead c hc]
        rfl
      rw [hblank, skipQuote_of_head? hquote, ImageRef.read?_eq_none hhead]
      rfl
    · have himage : ReadsAlone (ImageRef.read? fun c => isQuote c || isBlank c)
          (skipQuote (skipBlanks r)) ('\n' :: b) :=
        ImageRef.readsAlone_read (by decide) (by decide) _ b
      unfold ReadsAlone at himage
      rw [skipBlanks_append_of_ne_nil hblank, skipQuote_append, himage]
      cases ImageRef.read? (fun c => isQuote c || isBlank c) (skipQuote (skipBlanks r)) with
      | none => rfl
      | some p => simp [skipQuote_append]

theorem leavesTail_read : LeavesTail read? := by
  intro s i r h
  simp only [read?, Option.bind_eq_bind, Option.bind_eq_some_iff, Prod.exists, Option.pure_def,
    Option.some.injEq, Prod.mk.injEq] at h
  obtain ⟨s₁, h₁, j, s₂, h₂, -, rfl⟩ := h
  have hvalue := (skipQuote_suffix (skipBlanks s₁)).trans
    ((skipBlanks_suffix s₁).trans (dropPrefix?_suffix h₁))
  exact (skipQuote_suffix s₂).trans ((ImageRef.leavesTail_read _ _ _ h₂).trans hvalue)

end Service

end

/-! ## One image -/

theorem Container.beginsWith_read : BeginsWith Container.read? imageKey := by
  intro s i r h
  simp only [Container.read?, Option.bind_eq_bind, Option.bind_eq_some_iff] at h
  obtain ⟨s₁, h₁, -⟩ := h
  exact ⟨s₁, (dropPrefix?_eq_some_iff.1 h₁).symm⟩

theorem Service.beginsWith_read : BeginsWith Service.read? imageKey := by
  intro s i r h
  simp only [Service.read?, Option.bind_eq_bind, Option.bind_eq_some_iff] at h
  obtain ⟨s₁, h₁, -⟩ := h
  exact ⟨s₁, (dropPrefix?_eq_some_iff.1 h₁).symm⟩

section

variable {v r : Text} {i : ImageRef} (hv : IsBare v) (hr : ¬ imageKey <:+: r)

include hv hr

theorem kubernetes_of_one_image (hread : ImageRef.read? isBlank v = some (i, r)) :
    kubernetes ("image: ".toList ++ v) =
      if floats i.tag then [.containerImage i.image i.tag] else [] := by
  have hkey : dropPrefix? imageKey ("image: ".toList ++ v) = some (' ' :: v) := rfl
  have hskip : skipBlanks (' ' :: v) = v := skipBlanks_of_isBare hv
  have hfirst : Container.read? ("image: ".toList ++ v) = some (i, r) := by
    unfold Container.read?
    rw [hkey]
    simp only [Option.bind_eq_bind, Option.bind_some, hskip, hread]
  unfold kubernetes Container.all
  rw [findAll_of_some hfirst,
    findAll_of_no_key Container.leavesTail_read Container.beginsWith_read hr]
  by_cases hfloats : floats i.tag = true <;> simp [hfloats]

theorem compose_of_one_image (hread : ImageRef.read?
      (fun c => Service.isQuote c || isBlank c) (Service.skipQuote v) = some (i, r)) :
    compose ("image: ".toList ++ v) =
      if floats i.tag then [.serviceImage i.image i.tag] else [] := by
  have hkey : dropPrefix? imageKey ("image: ".toList ++ v) = some (' ' :: v) := rfl
  have hskip : skipBlanks (' ' :: v) = v := skipBlanks_of_isBare hv
  have hfirst : Service.read? ("image: ".toList ++ v) = some (i, Service.skipQuote r) := by
    unfold Service.read?
    rw [hkey]
    simp only [Option.bind_eq_bind, Option.bind_some, hskip, hread]
    rfl
  have hrest : ¬ imageKey <:+: Service.skipQuote r := fun h =>
    hr (h.trans (Service.skipQuote_suffix r).isInfix)
  unfold compose Service.all
  rw [findAll_of_some hfirst,
    findAll_of_no_key Service.leavesTail_read Service.beginsWith_read hrest]
  by_cases hfloats : floats i.tag = true <;> simp [hfloats]

end

/-! ## Line by line -/

/-- A text whose keys have their values beside them is judged line by line. -/
theorem manifests_are_judged_line_by_line {content : Text} (h : ValuesBesideKeys content) :
    kubernetes content = (lines content).flatMap kubernetes ∧
      compose content = (lines content).flatMap compose := by
  have hcontainers : Container.all content = (lines content).flatMap Container.all :=
    findAll_eq_flatMap_lines Container.leavesTail_read content fun _ _ =>
      Container.readsAlone_read h
  have hservices : Service.all content = (lines content).flatMap Service.all :=
    findAll_eq_flatMap_lines Service.leavesTail_read content fun _ _ => Service.readsAlone_read h
  constructor
  · unfold kubernetes
    rw [hcontainers, List.filter_flatMap, List.map_flatMap]
  · unfold compose
    rw [hservices, List.filter_flatMap, List.map_flatMap]

/-- A key in a comment, one with a colon on the next line, and one with nothing behind it. -/
theorem keys_without_a_value_are_passed_over :
    let content := "+image: \"app:3\" # image:x:\n - image:\n : image\n  image:\n \n".toList
    ValuesBesideKeys content ∧ kubernetes content = [.containerImage ['x'] none] ∧
      compose content = [.serviceImage "app".toList (some ['3']), .serviceImage ['x'] none] := by
  intro content
  have hbeside : ValuesBesideKeys content := by decide +kernel
  obtain ⟨hkubernetes, hcompose⟩ := manifests_are_judged_line_by_line hbeside
  refine ⟨hbeside, ?_, ?_⟩
  · rw [hkubernetes]
    decide +kernel
  · rw [hcompose]
    decide +kernel

/-- Without that, the marker of an added line is taken for the image, though no line says so. -/
theorem a_nested_mapping_is_taken_for_an_image :
    let content := "+image:\n+  repository: nginx\n+  tag: 1.25.3".toList
    kubernetes content = [.containerImage ['+'] none] ∧
      (lines content).flatMap kubernetes = [] ∧
      compose content = [.serviceImage ['+'] none] ∧ (lines content).flatMap compose = [] := by
  decide +kernel

end PinGate.Check
