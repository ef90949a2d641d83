-- The three checks of images from the mildest to the strictest. Where no quote stands, the two
-- checks of manifests find the same images, so one image is objected to twice; and what they object
-- to, the check of Dockerfiles objects to as well.
import PinGate.Analysis
import PinGate.Proofs.Check.Dockerfile
import PinGate.Proofs.Check.Manifest
import PinGate.Proofs.Selection

namespace PinGate.Check

open Text Diff

/-- Whether neither quote stands in a text. -/
def IsQuoteFree (s : Text) : Prop := ∀ c ∈ s, Service.isQuote c = false

instance (s : Text) : Decidable (IsQuoteFree s) :=
  inferInstanceAs (Decidable (∀ c ∈ s, Service.isQuote c = false))

/-! ## Manifests without quotes -/

section

variable {s t r : Text} {i : ImageRef}

theorem ImageRef.Begins.of_agree {ends ends' : Char → Bool} (h : ImageRef.Begins ends s i r)
    (hs : ∀ c ∈ s, ends c = ends' c) : ImageRef.Begins ends' s i r := by
  cases h with
  | @untagged image _ himage hend hbehind =>
    refine .untagged ⟨himage.1, ?_⟩ ?_ ?_
    · intro c hc
      rw [← hs c (by simp [hc])]
      exact himage.2 c hc
    · intro c hc
      rw [← hs c (by simp [List.mem_of_mem_head? hc])]
      exact hend c hc
    · rintro c t rfl
      rw [← hs c (by simp)]
      exact hbehind c t rfl
  | @tagged image tag _ himage hne htag hend =>
    refine .tagged ⟨himage.1, ?_⟩ hne ?_ ?_
    · intro c hc
      rw [← hs c (by simp [hc])]
      exact himage.2 c hc
    · intro c hc
      rw [← hs c (by simp [hc])]
      exact htag c hc
    · intro c hc
      rw [← hs c (by simp [List.mem_of_mem_head? hc])]
      exact hend c hc

/-- Two readers that differ in what ends an image read the same where the two agree. -/
theorem ImageRef.read?_congr {ends ends' : Char → Bool} (hs : ∀ c ∈ s, ends c = ends' c) :
    ImageRef.read? ends s = ImageRef.read? ends' s := by
  ext ⟨i, r⟩
  rw [ImageRef.read?_eq_some_iff, ImageRef.read?_eq_some_iff]
  exact ⟨fun h => h.of_agree hs, fun h => h.of_agree fun c hc => (hs c hc).symm⟩

theorem read?_of_quoteFree (h : IsQuoteFree t) : Container.read? t = Service.read? t := by
  unfold Container.read? Service.read?
  cases hs : dropPrefix? imageKey t with
  | none => rfl
  | some s =>
    have hvalue : IsQuoteFree (skipBlanks s) := by
      have hsuffix := (skipBlanks_suffix s).trans (dropPrefix?_suffix hs)
      exact fun c hc => h c (hsuffix.subset hc)
    have hends : ∀ c ∈ skipBlanks s, isBlank c = (Service.isQuote c || isBlank c) := by
      intro c hc
      rw [hvalue c hc, Bool.false_or]
    have hopen : Service.skipQuote (skipBlanks s) = skipBlanks s :=
      Service.skipQuote_of_head? fun c hc => hvalue c (List.mem_of_mem_head? hc)
    simp only [Option.bind_eq_bind, Option.bind_some, hopen, ← ImageRef.read?_congr hends]
    cases hr : ImageRef.read? isBlank (skipBlanks s) with
    | none => rfl
    | some p =>
      have hclose : Service.skipQuote p.2 = p.2 := by
        apply Service.skipQuote_of_head?
        intro c hc
        exact hvalue c ((ImageRef.leavesTail_read _ _ _ hr).subset (List.mem_of_mem_head? hc))
      simp [hclose]

theorem all_of_quoteFree (h : IsQuoteFree s) : Container.all s = Service.all s :=
  findAll_congr Container.leavesTail_read fun _ ht =>
    read?_of_quoteFree fun c hc => h c (ht.subset hc)

end

/-! ## Base images -/

namespace ImageRef

variable {i : ImageRef}

/-- A reference as it is written. -/
def text (i : ImageRef) : Text :=
  match i.tag with
  | none => i.image
  | some tag => i.image ++ ':' :: tag

/-- The objection to the image of a container. -/
def asContainer (i : ImageRef) : Finding := .containerImage i.image i.tag

/-- The objection to the image of a compose service. -/
def asService (i : ImageRef) : Finding := .serviceImage i.image i.tag

/-- The objection to a base image. -/
def asBase (i : ImageRef) : Finding :=
  match i.tag with
  | none => .baseUntagged i.image
  | some tag => .baseFloating i.image tag

/-- A tag that can move in a manifest can move in a Dockerfile. -/
theorem judgeBase_of_floats (h : floats i.tag = true) : judgeBase i = some i.asBase := by
  obtain ⟨image, tag⟩ := i
  cases tag with
  | none => rfl
  | some tag =>
    apply if_pos
    unfold floats at h
    unfold baseFloats
    simp only [Bool.or_eq_true, beq_iff_eq] at h ⊢
    rcases h with rfl | h
    · exact .inl (.inl (by decide))
    · exact .inl (.inr h)

/-- Whether an image, and the tag if there is one, are nonempty and stop at no blank. -/
structure IsWhole (i : ImageRef) : Prop where
  image : IsImage isBlank i.image
  tag : ∀ tag ∈ i.tag, tag ≠ [] ∧ ∀ c ∈ tag, isBlank c = false

theorem Begins.isWhole {ends : Char → Bool} {s r : Text} (h : Begins ends s i r)
    (hends : ∀ c, ends c = false → isBlank c = false) : i.IsWhole := by
  have hplain {image : Text} (himage : IsImage ends image) : IsImage isBlank image :=
    ⟨himage.1, fun c hc => ⟨(himage.2 c hc).1, hends c (himage.2 c hc).2⟩⟩
  cases h with
  | untagged himage => exact ⟨hplain himage, fun _ ht => nomatch ht⟩
  | tagged himage hne htag =>
    refine ⟨hplain himage, ?_⟩
    rintro _ ⟨⟩
    exact ⟨hne, fun c hc => hends c (htag c hc)⟩

/-- A whole reference is read as it is written, and nothing is left over. -/
theorem IsWhole.begins_text (h : i.IsWhole) : Begins isBlank i.text i [] := by
  obtain ⟨image, tag⟩ := i
  cases tag with
  | none =>
    have hbegins := Begins.untagged (r := []) h.image (by simp) (by simp)
    rwa [List.append_nil] at hbegins
  | some tag =>
    obtain ⟨hne, htag⟩ := h.tag tag rfl
    have hbegins := Begins.tagged (r := []) h.image hne htag (by simp)
    rwa [List.append_nil] at hbegins

theorem IsWhole.text_plain (h : i.IsWhole) :
    i.text ≠ [] ∧ ∀ c ∈ i.text, isBlank c = false := by
  obtain ⟨image, tag⟩ := i
  cases tag with
  | none => exact ⟨h.image.1, fun c hc => (h.image.2 c hc).2⟩
  | some tag =>
    refine ⟨by simp [text], ?_⟩
    intro c hc
    rcases List.mem_append.1 hc with hc | hc
    · exact (h.image.2 c hc).2
    · rcases List.mem_cons.1 hc with rfl | hc
      · rfl
      · exact (h.tag tag rfl).2 c hc

theorem IsWhole.dockerfile_eq (h : i.IsWhole) (hfloats : floats i.tag = true) :
    dockerfile ("FROM ".toList ++ i.text) = [i.asBase] := by
  obtain ⟨hne, hblank⟩ := h.text_plain
  rw [dockerfile_of_one_image hne hblank, read?_eq_some_iff.2 h.begins_text]
  simp [judgeBase_of_floats hfloats]

theorem asContainer_injective : Function.Injective asContainer := by
  rintro ⟨image, tag⟩ ⟨image', tag'⟩ h
  cases h
  rfl

theorem asService_injective : Function.Injective asService := by
  rintro ⟨image, tag⟩ ⟨image', tag'⟩ h
  cases h
  rfl

end ImageRef

section

variable {content : Text} {i : ImageRef}

theorem Container.isWhole (h : i ∈ Container.all content) : i.IsWhole := by
  obtain ⟨t, r, -, hread⟩ := exists_read_of_mem_findAll leavesTail_read h
  simp only [Container.read?, Option.bind_eq_bind, Option.bind_eq_some_iff] at hread
  obtain ⟨s, -, hread⟩ := hread
  exact (ImageRef.read?_eq_some_iff.1 hread).isWhole fun _ hc => hc

theorem Service.isWhole (h : i ∈ Service.all content) : i.IsWhole := by
  obtain ⟨t, r, -, hread⟩ := exists_read_of_mem_findAll leavesTail_read h
  simp only [Service.read?, Option.bind_eq_bind, Option.bind_eq_some_iff, Prod.exists,
    Option.pure_def, Option.some.injEq, Prod.mk.injEq] at hread
  obtain ⟨s, -, j, u, hread, rfl, -⟩ := hread
  exact (ImageRef.read?_eq_some_iff.1 hread).isWhole fun _ hc => (Bool.or_eq_false_iff.1 hc).2

theorem mem_kubernetes_iff :
    i.asContainer ∈ kubernetes content ↔ i ∈ Container.all content ∧ floats i.tag = true :=
  (List.mem_map_of_injective ImageRef.asContainer_injective).trans List.mem_filter

theorem mem_compose_iff :
    i.asService ∈ compose content ↔ i ∈ Service.all content ∧ floats i.tag = true :=
  (List.mem_map_of_injective ImageRef.asService_injective).trans List.mem_filter

end

/-! ## The whole analysis -/

/-- Whether a path ends as the path of a manifest does. -/
def IsManifestPath (path : Text) : Prop := ".yaml".toList <:+ path ∨ ".yml".toList <:+ path

instance : DecidablePred IsManifestPath := fun path =>
  inferInstanceAs (Decidable (".yaml".toList <:+ path ∨ ".yml".toList <:+ path))

/-- Whether an objection is one to the image of a manifest. -/
def isManifestImage : Finding → Bool
  | .containerImage .. | .serviceImage .. => true
  | _ => false

theorem filter_migration (content : Text) : (migration content).filter isManifestImage = [] := by
  unfold migration migrationUnder
  dsimp only
  split
  · simp only [List.filter_map, Function.comp_def, isManifestImage, List.filter_false, List.map_nil]
  · rfl

theorem filter_dockerfile (content : Text) : (dockerfile content).filter isManifestImage = [] := by
  rw [List.filter_eq_nil_iff]
  intro f hf
  obtain ⟨i, -, hi⟩ := List.mem_filterMap.1 hf
  unfold judgeBase at hi
  split at hi
  · cases hi
    exact Bool.false_ne_true
  · split at hi
    · cases hi
      exact Bool.false_ne_true
    · cases hi

/-- Only the two checks of manifests object to their images, and to nothing else. -/
theorem filter_check (v : Validator) (content : Text) :
    (v.check content).filter isManifestImage =
      if v = .kubernetes ∨ v = .compose then v.check content else [] := by
  cases v with
  | docker => exact filter_dockerfile content
  | _ =>
    simp only [Validator.check, node, requirements, gems, java, kubernetes, compose, workflow,
      List.filter_append, List.filter_map, Function.comp_def, isManifestImage, List.filter_false,
      List.filter_true, List.map_nil, List.append_nil]
    rfl

theorem IsManifestPath.appliesTo {v : Validator} (hv : v = .kubernetes ∨ v = .compose)
    {path : Text} (h : IsManifestPath path) : v.selector.appliesTo path = true := by
  rw [Selector.appliesTo_iff]
  refine .inl ?_
  rcases hv with rfl | rfl <;> simpa [Validator.selector, IsManifestPath] using h

theorem IsManifestPath.isDeleted {f : ChangedFile} (h : IsManifestPath f.path) :
    f.isDeleted = false := by
  have hnone : ∀ path ∈ [[], devNull], ¬ IsManifestPath path := by decide
  rw [Bool.eq_false_iff, ChangedFile.isDeleted, Ne, Bool.or_eq_true, List.isEmpty_iff, beq_iff_eq]
  rintro (hpath | hpath)
  · exact hnone [] (by simp) (hpath ▸ h)
  · exact hnone devNull (by simp) (hpath ▸ h)

/-- Of a manifest both checks are run, and what else is run finds no images. -/
theorem filter_analyzeFile {f : ChangedFile} (h : IsManifestPath f.path) :
    (analyzeFile f).filter isManifestImage =
      kubernetes (visibleText f) ++ compose (visibleText f) := by
  have hmigration : (if isMigrationPath f.path then migration (visibleText f) else []).filter
      isManifestImage = [] := by
    split
    · exact filter_migration _
    · rfl
  unfold analyzeFile
  rw [h.isDeleted, if_neg Bool.false_ne_true, List.filter_append, hmigration,
    List.append_nil, List.filter_flatMap, Validator.forPath, flatMap_filter_of_nil]
  · simp only [filter_check]
    simp [Validator.all, Validator.check]
  · intro v _ hv
    rw [filter_check, if_neg]
    intro hmanifest
    rw [h.appliesTo hmanifest] at hv
    cases hv

/-! ## From the mildest to the strictest -/

/-- Whether both checks of manifests object to some images, and to no others, and the analysis of a
file with that text does so for each of the two. -/
structure AreFoundTwice (images : List ImageRef) (content : Text) : Prop where
  containers : kubernetes content = images.map ImageRef.asContainer
  services : compose content = images.map ImageRef.asService
  analysis : ∀ f : ChangedFile, IsManifestPath f.path → visibleText f = content →
    (analyzeFile f).filter isManifestImage =
      images.map ImageRef.asContainer ++ images.map ImageRef.asService

/-- Without quotes the checks of manifests object to the same images, and no image that either of
them objects to is passed by the check of Dockerfiles. -/
theorem image_checks_are_ordered_by_strictness :
    (∀ content, IsQuoteFree content → ∃ images, AreFoundTwice images content) ∧
    ∀ (content : Text) (i : ImageRef),
      i.asContainer ∈ kubernetes content ∨ i.asService ∈ compose content →
        dockerfile ("FROM ".toList ++ i.text) = [i.asBase] := by
  constructor
  · intro content h
    have hcontainers : kubernetes content =
        ((Container.all content).filter (floats ·.tag)).map ImageRef.asContainer := rfl
    have hservices : compose content =
        ((Container.all content).filter (floats ·.tag)).map ImageRef.asService := by
      rw [all_of_quoteFree h]
      rfl
    refine ⟨_, hcontainers, hservices, ?_⟩
    intro f hpath hf
    rw [filter_analyzeFile hpath, hf, hcontainers, hservices]
  · rintro content i (hi | hi)
    · obtain ⟨hall, hfloats⟩ := mem_kubernetes_iff.1 hi
      exact (Container.isWhole hall).dockerfile_eq hfloats
    · obtain ⟨hall, hfloats⟩ := mem_compose_iff.1 hi
      exact (Service.isWhole hall).dockerfile_eq hfloats

/-- A manifest that had a quote before the change. -/
def manifest : ChangedFile where
  path := "k8s/app.yml".toList
  status := .modified
  oldPath := none
  hunks :=
    [⟨⟨1, 2, 1, 3⟩,
      [⟨.context, " - image: a".toList⟩, ⟨.removed, "-image: 'b'".toList⟩,
        ⟨.added, "+image:b:1.2".toList⟩, ⟨.added, "+ image: c:latest: # image: d:1.2.3".toList⟩]⟩]

theorem images_without_quotes_are_found_twice :
    IsQuoteFree (visibleText manifest) ∧
      (analyzeFile manifest).filter isManifestImage =
        [.containerImage ['a'] none, .containerImage ['b'] (some "1.2".toList),
          .serviceImage ['a'] none, .serviceImage ['b'] (some "1.2".toList)] ∧
      dockerfile "FROM b:1.2".toList = [.baseFloating ['b'] "1.2".toList] := by
  obtain ⟨hfound, hbases⟩ := image_checks_are_ordered_by_strictness
  have hquotes : IsQuoteFree (visibleText manifest) := by decide +kernel
  obtain ⟨images, h⟩ := hfound _ hquotes
  have himages : images = [⟨['a'], none⟩, ⟨['b'], some "1.2".toList⟩] := by
    apply List.map_injective_iff.2 ImageRef.asContainer_injective
    rw [← h.containers]
    decide +kernel
  refine ⟨hquotes, ?_, ?_⟩
  · rw [h.analysis manifest (by decide) rfl, himages]
    rfl
  · exact hbases (visibleText manifest) ⟨['b'], some "1.2".toList⟩ (.inl (by decide +kernel))

end PinGate.Check
