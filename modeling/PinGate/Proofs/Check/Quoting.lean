-- Scalars between quotes. The check of compose files sees through quotes; the checks of Kubernetes
-- manifests and of workflows take them for part of the value, so a quoted tag never counts as one
-- that can move, and a quoted reference never as a full version.
import PinGate.Proofs.Check.Registry
import PinGate.Proofs.Check.Workflow

namespace PinGate.Check

open Text

/-- A scalar between quotes. -/
def quoted (q : Char) (s : Text) : Text := q :: (s ++ [q])

/-- What quotes around an image change: nothing in a compose file; in a Kubernetes manifest the
image is objected to as it stands, quotes included, unless a colon is in it. -/
structure ImageQuoting (q : Char) (r : Text) : Prop where
  compose_eq : compose ("image: ".toList ++ quoted q r) = compose ("image: ".toList ++ r)
  kubernetes_quoted : kubernetes ("image: ".toList ++ quoted q r) =
    if ':' ∈ r then [] else [.containerImage (quoted q r) none]
  kubernetes_eq_iff :
    kubernetes ("image: ".toList ++ quoted q r) = kubernetes ("image: ".toList ++ r) ↔
      ':' ∈ r ∧ kubernetes ("image: ".toList ++ r) = []

/-- What quotes around the use of an action change: it is objected to whatever its reference is, and
never as it is without them. -/
structure UseQuoting (q : Char) (action ref : Text) : Prop where
  workflow_quoted : workflow ("uses: ".toList ++ quoted q (action ++ '@' :: ref)) =
    [.actionRef (q :: action) (ref ++ [q])]
  workflow_ne : workflow ("uses: ".toList ++ quoted q (action ++ '@' :: ref)) ≠
    workflow ("uses: ".toList ++ (action ++ '@' :: ref))

/-- No quote is made up: what is objected to is made of characters of the text. -/
theorem not_mem_kubernetes {q : Char} {s image : Text} {tag : Option Text} (hs : q ∉ s)
    (himage : q ∈ image) :
    Finding.containerImage image tag ∉ kubernetes s := by
  intro h
  obtain ⟨i, hi, heq⟩ := List.mem_map.1 h
  obtain ⟨t, u, ht, hread⟩ :=
    exists_read_of_mem_findAll Container.leavesTail_read (List.mem_of_mem_filter hi)
  simp only [Container.read?, Option.bind_eq_bind, Option.bind_eq_some_iff] at hread
  obtain ⟨v, hv, hread⟩ := hread
  cases heq
  have hsub := (ImageRef.read?_eq_some_iff.1 hread).image_subset himage
  exact hs (ht.subset ((dropPrefix?_suffix hv).subset ((skipBlanks_suffix v).subset hsub)))

section

variable {q : Char} {r action ref : Text} (hq : Service.isQuote q = true)

include hq

/-! ## Quotes -/

theorem eq_of_isQuote : q = '\'' ∨ q = '"' := by simpa [Service.isQuote] using hq

theorem isBlank_of_isQuote : isBlank q = false := by
  rcases eq_of_isQuote hq with rfl | rfl <;> rfl

theorem isDecimalDigit_of_isQuote : isDecimalDigit q = false := by
  rcases eq_of_isQuote hq with rfl | rfl <;> decide

theorem ne_of_isQuote {c : Char} (hc : Service.isQuote c = false) : q ≠ c := by
  rintro rfl
  rw [hq] at hc
  cases hc

theorem isBare_quoted (s : Text) : IsBare (quoted q s) := by
  rintro c ⟨⟩
  exact isBlank_of_isQuote hq

theorem not_mem_of_avoids {banned : List Char} (hr : Avoids banned r) : q ∉ r := fun h =>
  ne_of_isQuote hq (hr q h).2.1 rfl

theorem quoted_whole (hr : Avoids [] r) : ∀ c ∈ quoted q r, isBlank c = false := by
  have hblank := isBlank_of_isQuote hq
  simp only [quoted, List.mem_cons, List.mem_append, List.not_mem_nil, or_false]
  rintro c (rfl | hc | rfl)
  · exact hblank
  · exact (hr c hc).1
  · exact hblank

/-! ## Compose -/

theorem compose_quoted (hr : Avoids [] r) (hhead : r.head? ≠ some ':') :
    compose ("image: ".toList ++ quoted q r) = compose ("image: ".toList ++ r) := by
  by_cases hne : r = []
  · subst hne
    rcases eq_of_isQuote hq with rfl | rfl <;> decide +kernel
  · have hplain : ∀ c ∈ r, (Service.isQuote c || isBlank c) = false := by
      intro c hc
      simp [hr c hc]
    have hbare : IsBare r := fun c hc => (hr c (List.mem_of_mem_head? hc)).1
    obtain ⟨i, u, hread, hrest⟩ := ImageRef.exists_read_of_plain hne hhead hplain
    have hopen : Service.skipQuote r = r :=
      Service.skipQuote_of_head? fun c hc => (hr c (List.mem_of_mem_head? hc)).2.1
    have hopen_quoted : Service.skipQuote (quoted q r) = r ++ [q] := by
      simp [Service.skipQuote, quoted, dropOne?, hq]
    -- A quote ends the image, so the reader stops in front of the closing one.
    have hread_quoted : ImageRef.read? (fun c => Service.isQuote c || isBlank c) (r ++ [q]) =
        some (i, u ++ [q]) := by
      have halone :
          ReadsAlone (ImageRef.read? fun c => Service.isQuote c || isBlank c) r (q :: []) :=
        ImageRef.readsAlone_read (by simp [hq]) (ne_of_isQuote hq (by decide)) r []
      rw [ReadsAlone, hread] at halone
      exact halone
    have hshort : ∀ t : Text, t.length ≤ 1 → ¬ imageKey <:+: t ++ [q] := by
      intro t ht h
      have hle := h.length_le
      simp [imageKey] at hle
      omega
    have hlen : u.length ≤ 1 := by rcases hrest with rfl | rfl <;> simp
    have hkey : ¬ imageKey <:+: u := fun h =>
      hshort u hlen (h.trans (List.prefix_append u [q]).isInfix)
    rw [compose_of_one_image (isBare_quoted hq r) (hshort u hlen)
        (by rw [hopen_quoted, hread_quoted]),
      compose_of_one_image hbare hkey (by rw [hopen, hread])]

/-! ## Kubernetes -/

theorem kubernetes_of_colon (hr : Avoids [] r) (hcolon : ':' ∈ r) :
    kubernetes ("image: ".toList ++ quoted q r) = [] := by
  obtain ⟨image, tag, rfl, himage⟩ := List.eq_append_cons_of_mem hcolon
  have hwhole := quoted_whole hq hr
  have hsplit : quoted q (image ++ ':' :: tag) = q :: image ++ ':' :: (tag ++ [q]) := by
    simp [quoted]
  have hread : ImageRef.read? isBlank (quoted q (image ++ ':' :: tag)) =
      some (⟨q :: image, some (tag ++ [q])⟩, []) := by
    rw [hsplit] at hwhole ⊢
    obtain ⟨himage_whole, hrest⟩ := List.forall_mem_append.1 hwhole
    obtain ⟨-, htag_whole⟩ := List.forall_mem_cons.1 hrest
    apply ImageRef.read?_tagged (List.cons_ne_nil _ _) _ (by simp) htag_whole
    intro c hc
    refine ⟨?_, himage_whole c hc⟩
    rcases List.mem_cons.1 hc with rfl | hc
    · exact ne_of_isQuote hq (by decide)
    · exact ne_of_mem_of_not_mem hc himage
  have hfixed : floats (some (tag ++ [q])) = false :=
    floats_of_mem (c := q) (by simp) (isDecimalDigit_of_isQuote hq) (ne_of_isQuote hq (by decide))
      (by rcases eq_of_isQuote hq with rfl | rfl <;> decide)
  rw [kubernetes_of_one_image (isBare_quoted hq _) (by decide) hread, hfixed]
  rfl

theorem kubernetes_of_no_colon (hr : Avoids [] r) (hcolon : ':' ∉ r) :
    kubernetes ("image: ".toList ++ quoted q r) = [.containerImage (quoted q r) none] := by
  have hends : ':' ∉ quoted q r := by
    simp [quoted, hcolon, (ne_of_isQuote hq (c := ':') (by decide)).symm]
  have himage : ImageRef.IsImage isBlank (quoted q r) :=
    ⟨List.cons_ne_nil _ _, fun c hc => ⟨ne_of_mem_of_not_mem hc hends, quoted_whole hq hr c hc⟩⟩
  have hbegins := ImageRef.Begins.untagged (r := []) himage (by simp) (by simp)
  rw [List.append_nil] at hbegins
  exact kubernetes_of_one_image (isBare_quoted hq r) (by decide)
    (ImageRef.read?_eq_some_iff.2 hbegins)

theorem imageQuoting (hr : Avoids [] r) (hhead : r.head? ≠ some ':') : ImageQuoting q r where
  compose_eq := compose_quoted hq hr hhead
  kubernetes_quoted := by
    by_cases hcolon : ':' ∈ r
    · rw [if_pos hcolon, kubernetes_of_colon hq hr hcolon]
    · rw [if_neg hcolon, kubernetes_of_no_colon hq hr hcolon]
  kubernetes_eq_iff := by
    by_cases hcolon : ':' ∈ r
    · rw [kubernetes_of_colon hq hr hcolon, eq_comm, and_iff_right hcolon]
    · refine iff_of_false ?_ (fun h => hcolon h.1)
      rw [kubernetes_of_no_colon hq hr hcolon]
      have hkey : q ∉ "image: ".toList := by rcases eq_of_isQuote hq with rfl | rfl <;> decide
      have hplain : q ∉ "image: ".toList ++ r := by
        rw [List.mem_append, not_or]
        exact ⟨hkey, not_mem_of_avoids hq hr⟩
      intro heq
      have hmem : Finding.containerImage (quoted q r) none ∈
          kubernetes ("image: ".toList ++ r) := by
        rw [← heq]
        exact List.mem_singleton_self _
      exact not_mem_kubernetes hplain List.mem_cons_self hmem

/-! ## Workflows -/

theorem not_isPinned_quoted (ref : Text) : ¬ ActionUse.IsPinned (ref ++ [q]) := by
  rintro ⟨major, minor, patch, heq, hmajor, hminor, hpatch⟩
  have hnumber : ∀ {n}, isNumber n = true → q ∉ n := by
    intro n hn hmem
    rw [isNumber_of_mem hmem (isDecimalDigit_of_isQuote hq)] at hn
    cases hn
  have hmem : q ∈ 'v' :: (major ++ '.' :: (minor ++ '.' :: patch)) := by
    rw [← heq]
    simp
  simp [hnumber hmajor, hnumber hminor, hnumber hpatch, ne_of_isQuote hq (c := 'v') (by decide),
    ne_of_isQuote hq (c := '.') (by decide)] at hmem

theorem workflow_quoted (haction : Avoids ['@'] action) (href : Avoids [] ref) :
    workflow ("uses: ".toList ++ quoted q (action ++ '@' :: ref)) =
      [.actionRef (q :: action) (ref ++ [q])] := by
  have hblank := isBlank_of_isQuote hq
  have haction_run : ∀ c ∈ q :: action, (c != '@' && !isBlank c) = true := by
    rintro c hc
    rcases List.mem_cons.1 hc with rfl | hc
    · simp [hblank, ne_of_isQuote hq (c := '@') (by decide)]
    · obtain ⟨hc_blank, -, hc_sign⟩ := haction c hc
      simpa [hc_blank] using hc_sign
  have href_run : ∀ c ∈ ref ++ [q], (!isBlank c) = true := by
    intro c hc
    rcases List.mem_append.1 hc with hc | hc
    · simp [(href c hc).1]
    · obtain rfl := List.mem_singleton.1 hc
      simp [hblank]
  have htext : "uses: ".toList ++ quoted q (action ++ '@' :: ref) =
      ActionUse.key ++ ([' '] ++ quoted q (action ++ '@' :: ref)) := rfl
  have hsplit : quoted q (action ++ '@' :: ref) = q :: action ++ '@' :: (ref ++ [q]) := by
    simp [quoted]
  have hread : ActionUse.read? ("uses: ".toList ++ quoted q (action ++ '@' :: ref)) =
      some (⟨q :: action, ref ++ [q]⟩, []) := by
    have hrest : run? (fun c => !isBlank c) (ref ++ [q]) = some (ref ++ [q], []) := by
      have := run?_append (r := []) (by simp) href_run (by simp)
      rwa [List.append_nil] at this
    rw [htext, ActionUse.read?_key (singleton_mem_someBlanks rfl) (isBare_quoted hq _), hsplit,
      run?_append (List.cons_ne_nil _ _) haction_run (by simp)]
    simp [dropPrefix?, hrest]
  unfold workflow ActionUse.all
  rw [findAll_of_some hread, findAll_nil,
    List.filter_cons_of_pos (ActionUse.isLoose_iff.2 (not_isPinned_quoted hq ref))]
  rfl

theorem useQuoting (haction : Avoids ['@'] action) (href : Avoids [] ref) :
    UseQuoting q action ref where
  workflow_quoted := workflow_quoted hq haction href
  workflow_ne := by
    rw [workflow_quoted hq haction href]
    intro heq
    have hmem : Finding.actionRef (q :: action) (ref ++ [q]) ∈
        workflow ("uses: ".toList ++ (action ++ '@' :: ref)) := by
      rw [← heq]
      exact List.mem_singleton_self _
    obtain ⟨u, hu, hfinding⟩ := List.mem_map.1 hmem
    have haction_eq : u.action = q :: action := by
      injection hfinding
    have hq_mem := ActionUse.action_subset (List.mem_of_mem_filter hu)
      (haction_eq ▸ List.mem_cons_self)
    have hkey : q ∉ "uses: ".toList := by rcases eq_of_isQuote hq with rfl | rfl <;> decide
    rw [List.mem_append, List.mem_append, List.mem_cons] at hq_mem
    rcases hq_mem with h | h | h | h
    · exact hkey h
    · exact not_mem_of_avoids hq haction h
    · exact ne_of_isQuote hq (by decide) h
    · exact not_mem_of_avoids hq href h

end

/-- Quotes around a scalar change nothing for the check of compose files. For the other two they
are part of what is judged: an image with a colon in it is then never objected to, one without
always, and the use of an action always. -/
theorem quotes_are_seen_through_in_compose_files_alone {q : Char} (hq : Service.isQuote q = true) :
    (∀ r, Avoids [] r → r.head? ≠ some ':' → ImageQuoting q r) ∧
      ∀ action ref, Avoids ['@'] action → Avoids [] ref → UseQuoting q action ref :=
  ⟨fun _ => imageQuoting hq, fun _ _ => useQuoting hq⟩

/-- A tag that moves goes unseen between quotes, and a full version is objected to. -/
theorem a_quoted_latest_passes :
    kubernetes "image: \"nginx:latest\"".toList = [] ∧
      kubernetes "image: nginx:latest".toList =
        [.containerImage "nginx".toList (some "latest".toList)] ∧
      compose "image: 'nginx:latest'".toList =
        [.serviceImage "nginx".toList (some "latest".toList)] ∧
      workflow "uses: \"actions/checkout@v4.1.7\"".toList =
        [.actionRef "\"actions/checkout".toList "v4.1.7\"".toList] ∧
      workflow "uses: actions/checkout@v4.1.7".toList = [] := by
  obtain ⟨himage, huse⟩ := quotes_are_seen_through_in_compose_files_alone (q := '"') rfl
  obtain ⟨hsingle, -⟩ := quotes_are_seen_through_in_compose_files_alone (q := '\'') rfl
  have hlatest := himage "nginx:latest".toList (by decide) (by decide)
  have hcheckout := huse "actions/checkout".toList "v4.1.7".toList (by decide) (by decide)
  refine ⟨hlatest.kubernetes_quoted, by decide +kernel, ?_, hcheckout.workflow_quoted,
    by decide +kernel⟩
  refine (hsingle "nginx:latest".toList (by decide) (by decide)).compose_eq.trans ?_
  decide +kernel

end PinGate.Check
