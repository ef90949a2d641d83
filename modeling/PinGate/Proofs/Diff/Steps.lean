-- What one line does to a reading, by the kind of line, and how two readings are followed side by
-- side: when each line keeps two states related, whole runs end alike, errors included.
import PinGate.Proofs.Diff.Lines
import Mathlib.Data.List.Forall2

namespace PinGate.Diff

open Text

/-! ## One line -/

namespace State

variable {s : State} {line : Text}

theorem step_of_remark (h : s.owed.isOpen = true) (hl : startsWith ['\\'] line = true) :
    s.step line = .ok s := by
  simp [step, h, hl]

theorem step_of_kind {kind : LineKind} (h : s.owed.isOpen = true)
    (hk : LineKind.ofLine? line = some kind) :
    s.step line =
      .ok { s with draft := s.draft.map (·.addLine ⟨kind, line⟩), owed := s.owed.after kind } := by
  have hl : startsWith ['\\'] line = false := by
    unfold LineKind.ofLine? at hk
    split at hk <;> simp_all [startsWith, List.isPrefixOf]
  simp [step, h, hl, hk]

theorem step_of_header
    (h : s.owed.isOpen = true → startsWith ['\\'] line = false ∧ LineKind.ofLine? line = none) :
    s.step line = s.header line := by
  cases ho : s.owed.isOpen with
  | false => simp [step, ho]
  | true => simp [step, h ho]

/-- All that a line can be to a reading: a remark, a line of the hunk, or a header. -/
theorem step_cases (s : State) (line : Text) :
    (s.owed.isOpen = true ∧ startsWith ['\\'] line = true ∧ s.step line = .ok s) ∨
    (∃ kind, s.owed.isOpen = true ∧ LineKind.ofLine? line = some kind ∧ s.step line =
      .ok { s with draft := s.draft.map (·.addLine ⟨kind, line⟩), owed := s.owed.after kind }) ∨
    ((s.owed.isOpen = true → startsWith ['\\'] line = false ∧ LineKind.ofLine? line = none) ∧
      s.step line = s.header line) := by
  cases ho : s.owed.isOpen with
  | false => exact .inr (.inr ⟨by simp, step_of_header (by simp [ho])⟩)
  | true =>
    cases hl : startsWith ['\\'] line with
    | true => exact .inl ⟨rfl, rfl, step_of_remark ho hl⟩
    | false =>
      cases hk : LineKind.ofLine? line with
      | some kind => exact .inr (.inl ⟨kind, rfl, rfl, step_of_kind ho hk⟩)
      | none =>
        exact .inr (.inr ⟨fun _ => ⟨rfl, rfl⟩, step_of_header fun _ => ⟨hl, hk⟩⟩)

/-- A line that starts a file does so in whatever state it is met. -/
theorem step_of_start (h : startsWith "diff --git".toList line = true) :
    s.step line = .ok (s.openFile (pathOfStart line)) := by
  have hh : s.header line = .ok (s.openFile (pathOfStart line)) := by
    unfold header
    rw [if_pos h]
  obtain ⟨t, rfl⟩ := List.isPrefixOf_iff_prefix.1 h
  rw [← hh]
  rcases step_cases s ("diff --git".toList ++ t) with ⟨_, hr, _⟩ | ⟨_, _, hk, _⟩ | ⟨_, hs⟩
  · cases hr
  · cases hk
  · exact hs

/-! ## Many lines -/

theorem foldlM_cons_of_ok {t : State} (h : s.step line = .ok t) (ls : List Text) :
    (line :: ls).foldlM step s = ls.foldlM step t := by
  rw [List.foldlM_cons, h]
  rfl

theorem foldlM_append_of_ok {t : State} {ls : List Text} (h : ls.foldlM step s = .ok t)
    (ms : List Text) : (ls ++ ms).foldlM step s = ms.foldlM step t := by
  rw [List.foldlM_append, h]
  rfl

end State

/-! ## Two readings side by side -/

/-- Two runs end alike: they fail with the same error, or both come to results that are related. -/
inductive SameEnd {ε α β : Type} (R : α → β → Prop) : Except ε α → Except ε β → Prop
  | ok {a : α} {b : β} (h : R a b) : SameEnd R (.ok a) (.ok b)
  | error (e : ε) : SameEnd R (.error e) (.error e)

namespace SameEnd

variable {ε α β γ δ : Type} {R : α → β → Prop} {S : γ → δ → Prop}

theorem bind {x : Except ε α} {y : Except ε β} {f : α → Except ε γ} {g : β → Except ε δ}
    (h : SameEnd R x y) (hfg : ∀ a b, R a b → SameEnd S (f a) (g b)) :
    SameEnd S (x >>= f) (y >>= g) := by
  cases h with
  | ok hab => exact hfg _ _ hab
  | error e => exact .error e

/-- What each pair of lines keeps, two whole runs keep. -/
theorem foldlM {L : γ → δ → Prop} {f : α → γ → Except ε α} {g : β → δ → Except ε β}
    (hstep : ∀ a b l m, R a b → L l m → SameEnd R (f a l) (g b m)) {ls : List γ} {ms : List δ}
    (hl : List.Forall₂ L ls ms) {a : α} {b : β} (hab : R a b) :
    SameEnd R (ls.foldlM f a) (ms.foldlM g b) := by
  induction hl generalizing a b with
  | nil => exact .ok hab
  | cons hlm _ ih =>
    rw [List.foldlM_cons, List.foldlM_cons]
    exact (hstep _ _ _ _ hab hlm).bind fun _ _ h => ih h

theorem map_eq {f : α → γ} {g : β → γ} {x : Except ε α} {y : Except ε β}
    (h : SameEnd (fun a b => f a = g b) x y) : x.map f = y.map g := by
  cases h with
  | ok hab => simp [Except.map, hab]
  | error e => rfl

end SameEnd

end PinGate.Diff
