-- The laws of image references: a reader never looks past a character that can stand neither in
-- an image nor in a tag, the first colon ends the image whatever follows it, and a tag never counts
-- as one that can move when there is more in it than digits, points and the word `latest`.
import PinGate.Check.Image
import PinGate.Proofs.Text.Numbers
import PinGate.Proofs.Text.Search

namespace PinGate.Check

open Text

namespace ImageRef

/-- Whether a text can be an image: neither empty nor with a character in it that ends one. -/
def IsImage (ends : Char → Bool) (image : Text) : Prop :=
  image ≠ [] ∧ ∀ c ∈ image, c ≠ ':' ∧ ends c = false

/-- How an image, and perhaps a tag, begins a text; both reach as far as they can. -/
inductive Begins (ends : Char → Bool) : Text → ImageRef → Text → Prop
  /-- Behind the image stands no colon, or one with nothing behind it that can be a tag. -/
  | untagged {image r : Text} : IsImage ends image → (∀ c ∈ r.head?, c = ':' ∨ ends c = true) →
      (∀ c t, r = ':' :: c :: t → ends c = true) → Begins ends (image ++ r) ⟨image, none⟩ r
  | tagged {image tag r : Text} : IsImage ends image → tag ≠ [] → (∀ c ∈ tag, ends c = false) →
      (∀ c ∈ r.head?, ends c = true) →
      Begins ends (image ++ ':' :: (tag ++ r)) ⟨image, some tag⟩ r

variable {ends : Char → Bool} {w : Char} {image tag v s r : Text} {i : ImageRef}

theorem readsAlone_read (hends : ends w = true) (hcolon : w ≠ ':') (s b : Text) :
    ReadsAlone (read? ends) s (w :: b) := by
  refine ReadsAlone.bind (readsAlone_run (by simp [hends]) s b) fun image s => ?_
  have htag : ReadsAlone (fun s => (dropPrefix? [':'] s).bind (run? fun c => !ends c)) s (w :: b) :=
    ReadsAlone.behind_dropPrefix? (by simpa using hcolon) (readsAlone_run (by simp [hends]) · b) s
  unfold ReadsAlone at htag ⊢
  dsimp only at htag ⊢
  rw [htag]
  cases (dropPrefix? [':'] s).bind (run? fun c => !ends c) <;> rfl

theorem leavesTail_read : LeavesTail (read? ends) := by
  intro s i r h
  simp only [read?, Option.bind_eq_bind, Option.bind_eq_some_iff, Prod.exists,
    Option.pure_def] at h
  obtain ⟨image, t, ht, h⟩ := h
  have hts := run?_suffix ht
  split at h
  · next tag u hu =>
    obtain ⟨v, hv, hu⟩ := Option.bind_eq_some_iff.1 hu
    cases h
    exact ((run?_suffix hu).trans (dropPrefix?_suffix hv)).trans hts
  · cases h
    exact hts

theorem run?_image_iff {t : Text} : run? (fun c => c != ':' && !ends c) s = some (image, t) ↔
    IsImage ends image ∧ (∀ c ∈ t.head?, c = ':' ∨ ends c = true) ∧ s = image ++ t := by
  rw [run?_eq_some_iff_append]
  simp only [IsImage, Bool.and_eq_true, Bool.and_eq_false_iff, bne_iff_ne, bne_eq_false_iff_eq,
    Bool.not_eq_true', Bool.not_eq_false', and_assoc]

/-- The reader takes what begins a text and nothing else. -/
theorem read?_eq_some_iff : read? ends s = some (i, r) ↔ Begins ends s i r := by
  unfold read?
  simp only [Option.bind_eq_bind, Option.bind_eq_some_iff, Prod.exists, run?_image_iff,
    Option.pure_def]
  constructor
  · rintro ⟨image, t, ⟨himage, hend, rfl⟩, h⟩
    split at h
    · next tag u hu =>
      obtain ⟨v, hv, hrun⟩ := Option.bind_eq_some_iff.1 hu
      obtain ⟨hne, htag, hbehind, rfl⟩ := run?_eq_some_iff_append.1 hrun
      obtain rfl := dropPrefix?_eq_some_iff.1 hv
      cases h
      exact .tagged himage hne (by simpa using htag) (by simpa using hbehind)
    · next hnone =>
      cases h
      refine .untagged himage hend ?_
      rintro c u rfl
      by_contra hc
      simp [dropPrefix?, run?, hc] at hnone
  · rintro (@⟨image, _, himage, hend, hbehind⟩ | @⟨image, tag, _, himage, hne, htag, hbehind⟩)
    · refine ⟨image, r, ⟨himage, hend, rfl⟩, ?_⟩
      have hnone : (dropPrefix? [':'] r).bind (run? fun c => !ends c) = none := by
        rw [Option.bind_eq_none_iff]
        intro t ht
        obtain rfl := dropPrefix?_eq_some_iff.1 ht
        cases t with
        | nil => rfl
        | cons c t => simp [run?, hbehind c t rfl]
      simp [hnone]
    · refine ⟨image, ':' :: (tag ++ r), ⟨himage, ?_, rfl⟩, ?_⟩
      · rintro c ⟨⟩
        exact .inl rfl
      · have hrun : run? (fun c => !ends c) (tag ++ r) = some (tag, r) :=
          run?_append hne (by simpa using htag) (by simpa using hbehind)
        simp [dropPrefix?, hrun]

theorem Begins.head_plain (h : Begins ends s i r) : ∀ c ∈ s.head?, ends c = false := by
  obtain ⟨image, t, ⟨hne, himage⟩, rfl⟩ : ∃ image t, IsImage ends image ∧ s = image ++ t := by
    cases h with
    | untagged himage => exact ⟨_, _, himage, rfl⟩
    | tagged himage => exact ⟨_, _, himage, rfl⟩
  obtain ⟨c, image, rfl⟩ := List.exists_cons_of_ne_nil hne
  rintro d ⟨⟩
  exact (himage c List.mem_cons_self).2

theorem Begins.tag_ne (h : Begins ends s ⟨image, some tag⟩ r) : tag ≠ [] := by
  cases h with
  | tagged _ hne => exact hne

/-- Of a text in which nothing ends an image at most a colon is left over. -/
theorem Begins.rest_of_plain (h : Begins ends s i r) (hs : ∀ c ∈ s, ends c = false) :
    r = [] ∨ r = [':'] := by
  cases h with
  | untagged _ hend hbehind =>
    cases r with
    | nil => exact .inl rfl
    | cons c r =>
      have hc : c = ':' := (hend c rfl).resolve_right (by simp [hs c (by simp)])
      subst hc
      cases r with
      | nil => exact .inr rfl
      | cons d r =>
        have hd := hbehind d r rfl
        rw [hs d (by simp)] at hd
        cases hd
  | tagged _ _ _ hend =>
    cases r with
    | nil => exact .inl rfl
    | cons c r =>
      have hc := hend c rfl
      rw [hs c (by simp)] at hc
      cases hc

theorem exists_read_of_plain (hne : s ≠ []) (hhead : s.head? ≠ some ':')
    (hs : ∀ c ∈ s, ends c = false) :
    ∃ i r, read? ends s = some (i, r) ∧ (r = [] ∨ r = [':']) := by
  have hsome : (read? ends s).isSome = true := by
    obtain ⟨c, s, rfl⟩ := List.exists_cons_of_ne_nil hne
    have hc : c ≠ ':' := by simpa using hhead
    have hrun : run? (fun c => c != ':' && !ends c) (c :: s) = some
        (c :: s.takeWhile (fun c => c != ':' && !ends c),
          s.dropWhile (fun c => c != ':' && !ends c)) := by
      simp [run?, hc, hs c List.mem_cons_self]
    unfold read?
    rw [hrun]
    simp only [Option.bind_eq_bind, Option.bind_some]
    split <;> rfl
  obtain ⟨⟨i, r⟩, hread⟩ := Option.isSome_iff_exists.1 hsome
  exact ⟨i, r, hread, (read?_eq_some_iff.1 hread).rest_of_plain hs⟩

theorem Begins.image_subset (h : Begins ends s i r) : i.image ⊆ s := by
  cases h with
  | untagged => exact List.subset_append_left _ _
  | tagged => exact List.subset_append_left _ _

/-- No image begins with a colon, or where a text is at its end. -/
theorem read?_eq_none (hv : ∀ c ∈ v.head?, c = ':') : read? ends v = none := by
  cases v with
  | nil => rfl
  | cons c v =>
    obtain rfl := hv c rfl
    simp [read?, run?]

/-- An image and a tag in full. -/
theorem read?_tagged (hne : image ≠ []) (himage : ∀ c ∈ image, c ≠ ':' ∧ ends c = false)
    (htne : tag ≠ []) (htag : ∀ c ∈ tag, ends c = false) :
    read? ends (image ++ ':' :: tag) = some (⟨image, some tag⟩, []) := by
  have hbegins := Begins.tagged (r := []) ⟨hne, himage⟩ htne htag (by simp)
  rw [List.append_nil] at hbegins
  exact read?_eq_some_iff.2 hbegins

end ImageRef

/-! ## Tags that can move -/

/-- A partial version is a number, or two numbers joined by a point. -/
theorem isPartialVersion_iff {tag : Text} : isPartialVersion tag = true ↔ isNumber tag = true ∨
    ∃ major minor, tag = major ++ '.' :: minor ∧ isNumber major = true ∧ isNumber minor = true := by
  unfold isPartialVersion isMajorMinor
  rw [Bool.or_eq_true]
  refine or_congr_right ⟨?_, ?_⟩
  · intro h
    split at h
    · next major minor hsplit =>
      rw [Bool.and_eq_true] at h
      exact ⟨major, minor, (splitOnce?_eq_some_iff.1 hsplit).2, h⟩
    · cases h
  · rintro ⟨major, minor, rfl, hmajor, hminor⟩
    have hpoint : '.' ∉ major := by
      intro hmem
      rw [isNumber_of_mem hmem (by decide)] at hmajor
      cases hmajor
    simp [splitOnce?_append hpoint, hmajor, hminor]

section

variable {tag : Text} {c : Char} (h : c ∈ tag) (hdigit : isDecimalDigit c = false)
  (hpoint : c ≠ '.')

include h hdigit hpoint

theorem isPartialVersion_of_mem : isPartialVersion tag = false := by
  rw [Bool.eq_false_iff, Ne, isPartialVersion_iff]
  rintro (hnumber | ⟨major, minor, rfl, hmajor, hminor⟩)
  · rw [isNumber_of_mem h hdigit] at hnumber
    cases hnumber
  · rw [List.mem_append, List.mem_cons] at h
    rcases h with h | h | h
    · rw [isNumber_of_mem h hdigit] at hmajor
      cases hmajor
    · exact hpoint h
    · rw [isNumber_of_mem h hdigit] at hminor
      cases hminor

/-- A tag cannot move when a character stands in it that is in no tag which can. -/
theorem floats_of_mem (hword : c ∉ "latest".toList) : floats (some tag) = false := by
  have hlatest : (tag == "latest".toList) = false := by
    rw [beq_eq_false_iff_ne]
    rintro rfl
    exact hword h
  unfold floats
  dsimp only
  rw [hlatest, isPartialVersion_of_mem h hdigit hpoint]
  rfl

end

end PinGate.Check
