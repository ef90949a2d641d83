-- The laws of numbers as text. The digits that a number is written with are read back as that
-- number, and as a run that ends where they end; no blank and no line break is among them.
import PinGate.Proofs.Text.Parts
import PinGate.Text.Integer
import Mathlib.Data.List.Basic

namespace PinGate.Text

/-! ## Digits -/

theorem toNat_of_isDigit {c : Char} (h : c.isDigit = true) : 48 ≤ c.toNat ∧ c.toNat < 58 := by
  simp only [Char.isDigit, Bool.and_eq_true, decide_eq_true_eq, UInt32.le_iff_toNat_le] at h
  exact ⟨h.1, Nat.lt_succ_of_le h.2⟩

theorem digitValue?_of_isDigit {c : Char} (h : c.isDigit = true) :
    digitValue? c = some (c.toNat - '0'.toNat) := by
  have hc := toNat_of_isDigit h
  unfold digitValue? digitZeros
  rw [List.find?_cons_of_pos (by simpa using hc)]
  rfl

theorem isBlank_of_isDigit {c : Char} (h : c.isDigit = true) : isBlank c = false := by
  have hc := toNat_of_isDigit h
  simp only [isBlank, Bool.or_eq_false_iff, Bool.and_eq_false_iff, decide_eq_false_iff_not,
    beq_eq_false_iff_ne]
  omega

theorem isLineBreak_of_isDigit {c : Char} (h : c.isDigit = true) : isLineBreak c = false := by
  have hc := toNat_of_isDigit h
  simp only [isLineBreak, Bool.or_eq_false_iff, Bool.and_eq_false_iff, decide_eq_false_iff_not,
    beq_eq_false_iff_ne]
  omega

theorem isDecimalDigit_of_isDigit {c : Char} (h : c.isDigit = true) : isDecimalDigit c = true := by
  simp [isDecimalDigit, digitValue?_of_isDigit h]

theorem isNumber_of_mem {c : Char} {s : Text} (h : c ∈ s) (hc : isDecimalDigit c = false) :
    isNumber s = false := by
  unfold isNumber
  rw [Bool.and_eq_false_iff, List.all_eq_false]
  exact .inr ⟨c, h, by simp [hc]⟩

/-- What is true of no digit of any script, row by row. -/
theorem eq_false_of_isDecimalDigit {p : Char → Bool}
    (hp : ∀ z ∈ digitZeros, ∀ k < 10, p (Char.ofNat (z + k)) = false) {c : Char}
    (h : isDecimalDigit c = true) : p c = false := by
  unfold isDecimalDigit digitValue? at h
  rw [Option.isSome_map, Option.isSome_iff_exists] at h
  obtain ⟨z, hz⟩ := h
  have hrange := List.find?_some hz
  rw [Bool.and_eq_true, decide_eq_true_eq, decide_eq_true_eq] at hrange
  have hc := hp z (List.mem_of_find?_eq_some hz) (c.toNat - z) (by omega)
  rwa [Nat.add_sub_cancel' hrange.1, Char.ofNat_toNat] at hc

theorem isDigit_of_mem_ofNat {n : Nat} {c : Char} (h : c ∈ ofNat n) : c.isDigit = true :=
  Nat.isDigit_of_mem_toDigits (by decide) (by decide) h

theorem isDecimalDigit_of_mem_ofNat {n : Nat} {c : Char} (h : c ∈ ofNat n) :
    isDecimalDigit c = true :=
  isDecimalDigit_of_isDigit (isDigit_of_mem_ofNat h)

theorem ofNat_ne_nil (n : Nat) : ofNat n ≠ [] := Nat.toDigits_ne_nil

/-- Of ASCII digits the value is the usual one. -/
theorem numberOf_eq_ofDigitChars {s : Text} (h : ∀ c ∈ s, c.isDigit = true) :
    numberOf s = Nat.ofDigitChars 10 s 0 := by
  unfold numberOf Nat.ofDigitChars
  apply List.foldl_ext
  intro n c hc
  rw [digitValue?_of_isDigit (h c hc)]
  rfl

@[simp]
theorem numberOf_ofNat (n : Nat) : numberOf (ofNat n) = n := by
  rw [numberOf_eq_ofDigitChars fun c hc => isDigit_of_mem_ofNat hc]
  exact Nat.ofDigitChars_ten_toDigits

theorem ofNat_injective : Function.Injective ofNat :=
  Function.LeftInverse.injective numberOf_ofNat

@[simp]
theorem trim_ofNat (n : Nat) : trim (ofNat n) = ofNat n :=
  trim_of_not_blank fun _ hc => isBlank_of_isDigit (isDigit_of_mem_ofNat hc)

theorem ofDigits_ofNat {n : Nat} (h : (ofNat n).length ≤ maxDigits) :
    ofDigits (ofNat n) = .ok n := by
  simp [ofDigits, Nat.not_lt.2 h]

/-! ## Runs -/

/-- A run of one class ends where a character of another class, or nothing, follows. -/
theorem run?_append {p : Char → Bool} {w r : Text} (hw : w ≠ []) (hp : ∀ c ∈ w, p c = true)
    (hr : ∀ c, r.head? = some c → p c = false) : run? p (w ++ r) = some (w, r) := by
  have hnil : r.takeWhile p = [] ∧ r.dropWhile p = r := by
    cases r with
    | nil => simp
    | cons c cs => simp [hr c rfl]
  rw [run?_eq_some_iff]
  refine ⟨hw, ?_, ?_⟩
  · rw [List.takeWhile_append_of_pos hp, hnil.1, List.append_nil]
  · rw [List.dropWhile_append_of_pos hp, hnil.2]

theorem run?_eq_some_iff_append {p : Char → Bool} {s w r : Text} : run? p s = some (w, r) ↔
    w ≠ [] ∧ (∀ c ∈ w, p c = true) ∧ (∀ c ∈ r.head?, p c = false) ∧ s = w ++ r := by
  constructor
  · intro h
    obtain ⟨hne, rfl, rfl⟩ := run?_eq_some_iff.1 h
    refine ⟨hne, fun _ => List.mem_takeWhile_imp, ?_, List.takeWhile_append_dropWhile.symm⟩
    intro c hc
    have := List.head?_dropWhile_not p s
    simpa [Option.mem_def.1 hc] using this
  · rintro ⟨hne, hw, hr, rfl⟩
    exact run?_append hne hw hr

theorem run?_ofNat (n : Nat) {r : Text} (hr : ∀ c, r.head? = some c → isDecimalDigit c = false) :
    run? isDecimalDigit (ofNat n ++ r) = some (ofNat n, r) :=
  run?_append (ofNat_ne_nil n) (fun _ => isDecimalDigit_of_mem_ofNat) hr

end PinGate.Text
