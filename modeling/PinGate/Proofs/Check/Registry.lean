-- Images of a registry that is addressed by host and port. The first colon ends the image, so the
-- port and all that follows it is taken for the tag; there is a slash in it, and so nothing is
-- ever objected to, with or without a tag.
import PinGate.Proofs.Check.Dockerfile
import PinGate.Proofs.Check.Manifest

namespace PinGate.Check

open Text

/-- Whether a part of a reference holds no blank, no quote, and none of some more characters. -/
def Avoids (banned : List Char) (s : Text) : Prop :=
  ∀ c ∈ s, isBlank c = false ∧ Service.isQuote c = false ∧ c ∉ banned

instance (banned : List Char) : DecidablePred (Avoids banned) := fun s =>
  List.decidableBAll (fun c => isBlank c = false ∧ Service.isQuote c = false ∧ c ∉ banned) s

/-- The place of an image in a registry that is reached at a port. -/
structure Address where
  host : Text
  port : Text
  name : Text
  host_ne : host ≠ []
  host_plain : Avoids [':', '/'] host
  port_digits : ∀ c ∈ port, isDecimalDigit c = true
  name_plain : Avoids [':', '@'] name

namespace Address

/-- What stands behind the first colon. -/
def behindHost (a : Address) : Text := a.port ++ '/' :: a.name

def untagged (a : Address) : Text := a.host ++ ':' :: a.behindHost

def tagged (a : Address) (tag : Text) : Text := a.untagged ++ ':' :: tag

end Address

/-- The three checks of images, each with a line that names one image. -/
def imageChecks : List (Text → List Finding) :=
  [fun r => dockerfile ("FROM ".toList ++ r), fun r => kubernetes ("image: ".toList ++ r),
   fun r => compose ("image: ".toList ++ r)]

/-! ## One image, one tag -/

section

variable {banned fewer : List Char} {s t image tag : Text} {c : Char}

theorem Avoids.mono (h : Avoids banned s) (hsub : fewer ⊆ banned) : Avoids fewer s := fun c hc =>
  ⟨(h c hc).1, (h c hc).2.1, fun hmem => (h c hc).2.2 (hsub hmem)⟩

theorem Avoids.append (hs : Avoids banned s) (ht : Avoids banned t) : Avoids banned (s ++ t) :=
  List.forall_mem_append.2 ⟨hs, ht⟩

theorem Avoids.cons (hc : isBlank c = false ∧ Service.isQuote c = false ∧ c ∉ banned)
    (hs : Avoids banned s) : Avoids banned (c :: s) := List.forall_mem_cons.2 ⟨hc, hs⟩

/-- What the three checks say about an image with a tag. -/
def judgements (image tag : Text) : List (List Finding) :=
  [if baseFloats tag then [.baseFloating image tag] else [],
   if floats (some tag) then [.containerImage image (some tag)] else [],
   if floats (some tag) then [.serviceImage image (some tag)] else []]

theorem imageChecks_tagged (hne : image ≠ []) (himage : Avoids [':'] image) (htne : tag ≠ [])
    (htag : Avoids [] tag) :
    imageChecks.map (· (image ++ ':' :: tag)) = judgements image tag := by
  have hcolon : ∀ c ∈ image, c ≠ ':' := fun c hc => by simpa using (himage c hc).2.2
  have hall : Avoids [] (image ++ ':' :: tag) :=
    (himage.mono (List.nil_subset _)).append (.cons (by decide) htag)
  have hhead : ∀ c ∈ (image ++ ':' :: tag).head?, isBlank c = false ∧ Service.isQuote c = false :=
    fun c hc => ⟨(hall c (List.mem_of_mem_head? hc)).1, (hall c (List.mem_of_mem_head? hc)).2.1⟩
  have hplain : ImageRef.read? isBlank (image ++ ':' :: tag) = some (⟨image, some tag⟩, []) :=
    ImageRef.read?_tagged hne (fun c hc => ⟨hcolon c hc, (himage c hc).1⟩) htne
      fun c hc => (htag c hc).1
  have hquoted : ImageRef.read? (fun c => Service.isQuote c || isBlank c) (image ++ ':' :: tag) =
      some (⟨image, some tag⟩, []) := by
    apply ImageRef.read?_tagged hne _ htne
    · intro c hc
      simp [htag c hc]
    · intro c hc
      simp [hcolon c hc, himage c hc]
  have hdocker := dockerfile_of_one_image (r := image ++ ':' :: tag) (by simp)
    fun c hc => (hall c hc).1
  have hbare : IsBare (image ++ ':' :: tag) := fun c hc => (hhead c hc).1
  rw [← Service.skipQuote_of_head? fun c hc => (hhead c hc).2] at hquoted
  have hkubernetes := kubernetes_of_one_image hbare (by decide) hplain
  have hcompose := compose_of_one_image hbare (by decide) hquoted
  rw [hplain] at hdocker
  simp only [imageChecks, judgements, List.map_cons, List.map_nil, hdocker, hkubernetes, hcompose]
  by_cases hfloats : baseFloats tag = true <;> simp [judgeBase, hfloats]

theorem judgements_of_mem_slash (image : Text) (h : '/' ∈ tag) :
    judgements image tag = [[], [], []] := by
  unfold judgements
  rw [baseFloats_of_mem_slash h, floats_of_mem h (by decide) (by decide) (by decide)]
  rfl

end

/-! ## Ports -/

namespace Address

variable (a : Address)

theorem behindHost_ne : a.behindHost ≠ [] := by simp [behindHost]

theorem slash_mem_behindHost : '/' ∈ a.behindHost := by simp [behindHost]

theorem behindHost_plain : Avoids [] a.behindHost := by
  have hport : Avoids [] a.port := by
    intro c hc
    have hdigit := a.port_digits c hc
    exact ⟨eq_false_of_isDecimalDigit (by decide +kernel) hdigit,
      eq_false_of_isDecimalDigit (by decide +kernel) hdigit, by simp⟩
  exact hport.append (.cons (by decide) (a.name_plain.mono (List.nil_subset _)))

end Address

/-- Nothing is said about an image behind a host and a port, whatever its tag; the same image with
the same tag and no host is judged by the tag. -/
theorem nothing_is_said_behind_a_port (a : Address) {tag : Text} (hne : tag ≠ [])
    (htag : Avoids [':', '/'] tag) :
    imageChecks.map (· a.untagged) = [[], [], []] ∧
      imageChecks.map (· (a.tagged tag)) = [[], [], []] ∧
      (a.name ≠ [] → imageChecks.map (· (a.name ++ ':' :: tag)) = judgements a.name tag) := by
  have hhost : Avoids [':'] a.host := a.host_plain.mono (by decide)
  have hplain : Avoids [] tag := htag.mono (List.nil_subset _)
  refine ⟨?_, ?_, ?_⟩
  · rw [← judgements_of_mem_slash a.host a.slash_mem_behindHost]
    exact imageChecks_tagged a.host_ne hhost a.behindHost_ne a.behindHost_plain
  · have hmem : '/' ∈ a.behindHost ++ ':' :: tag := List.mem_append_left _ a.slash_mem_behindHost
    have hread : Avoids [] (a.behindHost ++ ':' :: tag) :=
      a.behindHost_plain.append (.cons (by decide) hplain)
    have hsplit : a.tagged tag = a.host ++ ':' :: (a.behindHost ++ ':' :: tag) := by
      simp [Address.tagged, Address.untagged]
    rw [hsplit, ← judgements_of_mem_slash a.host hmem]
    exact imageChecks_tagged a.host_ne hhost (by simp) hread
  · intro hname
    exact imageChecks_tagged hname (a.name_plain.mono (by decide)) hne hplain

/-- An image at a local registry, with the tag that is objected to everywhere else. -/
def localImage : Address where
  host := "registry.local".toList
  port := "5000".toList
  name := "team/app".toList
  host_ne := by decide
  host_plain := by decide
  port_digits := List.all_eq_true.1 rfl
  name_plain := by decide

theorem the_default_tag_goes_unseen_behind_a_port :
    "latest".toList ≠ [] ∧ Avoids [':', '/'] "latest".toList ∧
      imageChecks.map (· "registry.local:5000/team/app".toList) = [[], [], []] ∧
      imageChecks.map (· "registry.local:5000/team/app:latest".toList) = [[], [], []] ∧
      imageChecks.map (· "team/app:latest".toList) =
        [[.baseFloating "team/app".toList "latest".toList],
         [.containerImage "team/app".toList (some "latest".toList)],
         [.serviceImage "team/app".toList (some "latest".toList)]] := by
  have hplain : Avoids [':', '/'] "latest".toList := by decide
  obtain ⟨huntagged, htagged, hname⟩ := nothing_is_said_behind_a_port localImage (by decide) hplain
  exact ⟨by decide, hplain, huntagged, htagged, hname (by decide)⟩

end PinGate.Check
