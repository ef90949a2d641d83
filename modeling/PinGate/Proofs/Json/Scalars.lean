-- Strings and whole numbers as they are written are read back as what they were, and hold nothing
-- that raw output may change.
import Mathlib.Data.List.Basic
import PinGate.Json.Writer
import PinGate.Proofs.Json.Grammar
import PinGate.Proofs.Text.Numbers
import PinGate.Terminal.RawOutput

namespace PinGate.Json

open Text Terminal

/-! ## Strings -/

theorem hexValue?_hexDigit : ∀ m < 16, hexValue? (hexDigit m) = some m := by
  decide

/-- Four digits that write a 16-bit unit are read as that unit. -/
theorem exists_hex_four (n : Nat) (hn : n < 0x10000) :
    ∃ a b c d, hex 4 n = [a, b, c, d] ∧ hexUnit? a b c d = some n := by
  have hdigit (m : Nat) := hexValue?_hexDigit (m % 16) (Nat.mod_lt m (by decide))
  refine ⟨_, _, _, _, rfl, ?_⟩
  simp only [hexUnit?, hdigit, Option.bind_eq_bind, Option.bind_some, Option.pure_def,
    Option.some.injEq]
  omega

section

variable {c e : Char}

theorem shortEscape?_eq_some (h : shortEscape? c = some e) :
    e ≠ 'u' ∧ unescape? e = some c ∧ 0x20 ≤ e.toNat := by
  unfold shortEscape? at h
  repeat' split at h
  all_goals cases h
  all_goals subst_vars
  all_goals decide

theorem shortEscape?_eq_none (h : shortEscape? c = none) : c ≠ '"' ∧ c ≠ '\\' := by
  constructor
  · rintro rfl
    cases h
  · rintro rfl
    cases h

variable (s : Text)

theorem readUnits?_escape (he : e ≠ 'u') (h : unescape? e = some c) :
    readUnits? ('\\' :: e :: s) = (readUnits? s).map fun p => (c.toNat :: p.1, p.2) := by
  rw [readUnits?]
  · rw [h]
    cases readUnits? s <;> rfl
  · simp [he]

theorem readUnits?_unit {a b d f : Char} {n : Nat} (h : hexUnit? a b d f = some n) :
    readUnits? ('\\' :: 'u' :: a :: b :: d :: f :: s) =
      (readUnits? s).map fun p => (n :: p.1, p.2) := by
  rw [readUnits?, h]
  cases readUnits? s <;> rfl

theorem readUnits?_plain (hquote : c ≠ '"') (hslash : c ≠ '\\') (hc : 0x20 ≤ c.toNat) :
    readUnits? (c :: s) = (readUnits? s).map fun p => (c.toNat :: p.1, p.2) := by
  rw [readUnits?]
  · rw [if_neg (by simp [hslash, Nat.not_lt.2 hc])]
    cases readUnits? s <;> rfl
  · exact hquote
  · intro a b d f r h
    exact absurd h hslash
  · intro a b h
    exact absurd h hslash

end

theorem readUnits?_writeChar (c : Char) (s : Text) :
    readUnits? (writeChar c ++ s) = (readUnits? s).map fun p => (c.toNat :: p.1, p.2) := by
  unfold writeChar
  cases hescape : shortEscape? c with
  | some e =>
    obtain ⟨he, hc, -⟩ := shortEscape?_eq_some hescape
    exact readUnits?_escape s he hc
  | none =>
    obtain ⟨hquote, hslash⟩ := shortEscape?_eq_none hescape
    dsimp only
    by_cases hc : c.toNat < 0x20
    · obtain ⟨a, b, d, f, hhex, hunit⟩ := exists_hex_four c.toNat (by omega)
      rw [if_pos hc, unitEscape, hhex]
      exact readUnits?_unit s hunit
    · rw [if_neg hc]
      exact readUnits?_plain s hquote hslash (Nat.not_lt.1 hc)

theorem isSurrogate_toNat (c : Char) : isSurrogate c.toNat = false := by
  have hc : c.toNat < 0xd800 ∨ 0xdfff < c.toNat ∧ c.toNat < 0x110000 := c.valid
  unfold isSurrogate
  simp only [Bool.and_eq_false_iff, decide_eq_false_iff_not]
  omega

theorem pairUp_of_no_surrogate {ns : List Nat} (h : ∀ n ∈ ns, isSurrogate n = false) :
    pairUp ns = ns := by
  fun_induction pairUp ns with
  | case1 high low r hpair ih =>
    have hhigh := h high (by simp)
    simp only [isSurrogate, Bool.and_eq_true, Bool.and_eq_false_iff, decide_eq_true_eq,
      decide_eq_false_iff_not] at hpair hhigh
    omega
  | case2 high low r hpair ih => rw [ih fun n hn => h n (by simp [hn])]
  | case3 => rfl

theorem textOf_map_toNat (t : Text) : textOf (t.map Char.toNat) = t := by
  unfold textOf
  rw [List.map_map]
  conv_rhs => rw [← List.map_id t]
  refine List.map_congr_left fun c _ => ?_
  simp [isSurrogate_toNat]

/-- A written text is read back, whatever stands behind it. -/
theorem readString?_append (t r : Text) :
    readString? (t.flatMap writeChar ++ '"' :: r) = some (t.map Char.toNat, r) := by
  have hunits : readUnits? (t.flatMap writeChar ++ '"' :: r) = some (t.map Char.toNat, r) := by
    induction t with
    | nil => rfl
    | cons c t ih =>
      rw [List.flatMap_cons, List.append_assoc, readUnits?_writeChar, ih]
      rfl
  have hpoints : ∀ n ∈ t.map Char.toNat, isSurrogate n = false := by
    simp [isSurrogate_toNat]
  unfold readString?
  rw [hunits, Option.map_some]
  dsimp only
  rw [pairUp_of_no_surrogate hpoints]

theorem readScalar?_writeString (t r : Text) :
    readScalar? (writeString t ++ r) = some (.string t, r) := by
  have hnone : (t.map Char.toNat).any isSurrogate = false := by
    simp [isSurrogate_toNat]
  unfold writeString
  rw [List.append_assoc, List.cons_append, readScalar?, List.singleton_append, readString?_append,
    Option.map_some]
  dsimp only
  rw [stringValue, hnone, textOf_map_toNat]
  rfl

/-- No control character is written as it is. -/
theorem isPlain_writeChar (c : Char) : IsPlain (writeChar c) := by
  unfold writeChar
  cases hescape : shortEscape? c with
  | some e =>
    obtain ⟨-, -, he⟩ := shortEscape?_eq_some hescape
    exact isPlain_append (a := ['\\']) (by decide) (isPlain_singleton he)
  | none =>
    dsimp only
    by_cases hc : c.toNat < 0x20
    · have hplain : ∀ n < 0x20, IsPlain (unitEscape n) := by decide
      rw [if_pos hc]
      exact hplain c.toNat hc
    · rw [if_neg hc]
      exact isPlain_singleton (Nat.not_lt.1 hc)

theorem isPlain_writeString (t : Text) : IsPlain (writeString t) := by
  have hbody : IsPlain (t.flatMap writeChar) := by
    intro d hd
    obtain ⟨c, -, hd⟩ := List.mem_flatMap.1 hd
    exact isPlain_writeChar c d hd
  exact isPlain_append (isPlain_append (a := ['"']) (by decide) hbody) (by decide)

/-! ## Numbers -/

/-- Whether nothing that could belong to a number starts a text. -/
def EndsNumber (r : Text) : Prop :=
  ∀ c ∈ r.head?, c.isDigit = false ∧ c ≠ '.' ∧ c ≠ 'e' ∧ c ≠ 'E'

/-- No zero stands in front of other digits. -/
theorem head?_ofNat {n : Nat} (h : n ≠ 0) : (ofNat n).head? ≠ some '0' := by
  unfold ofNat
  induction n using Nat.strongRecOn with
  | ind n ih =>
    rw [Nat.toDigits_eq_if (by decide)]
    by_cases hn : n < 10
    · have hdigit : ∀ m < 10, m ≠ 0 → [Nat.digitChar m].head? ≠ some '0' := by decide
      rw [if_pos hn]
      exact hdigit n hn h
    · rw [if_neg hn, List.head?_append_of_ne_nil _ Nat.toDigits_ne_nil]
      exact ih (n / 10) (by omega) (by omega)

theorem readWhole?_ofNat (n : Nat) {r : Text} (h : EndsNumber r) :
    readWhole? (ofNat n ++ r) = some (ofNat n, r) := by
  by_cases hn : n = 0
  · subst hn
    rfl
  · rw [readWhole?]
    · exact run?_append (ofNat_ne_nil n) (fun _ => isDigit_of_mem_ofNat) fun c hc => (h c hc).1
    · intro r' hr'
      have hhead := congrArg List.head? hr'
      rw [List.head?_append_of_ne_nil _ (ofNat_ne_nil n)] at hhead
      exact head?_ofNat hn hhead

theorem readFraction?_of_endsNumber {r : Text} (h : EndsNumber r) : readFraction? r = none := by
  unfold readFraction?
  cases r with
  | nil => rfl
  | cons c r =>
    rw [dropPrefix?, if_neg (h c rfl).2.1.symm]
    rfl

theorem readExponent?_of_endsNumber {r : Text} (h : EndsNumber r) : readExponent? r = none := by
  unfold readExponent?
  cases r with
  | nil => rfl
  | cons c r =>
    obtain ⟨-, -, he, hE⟩ := h c rfl
    rw [dropOne?, if_neg (by simp [he, hE])]
    rfl

theorem readMagnitude?_ofNat (negative : Bool) (n : Nat) {r : Text} (h : EndsNumber r) :
    readMagnitude? negative (ofNat n ++ r) =
      some (.int (if negative then -(n : Int) else n), r) := by
  unfold readMagnitude?
  rw [readWhole?_ofNat n h]
  simp [readFraction?_of_endsNumber h, readExponent?_of_endsNumber h]

theorem readScalar?_of_isDigit {c : Char} (h : c.isDigit = true) (s : Text) :
    readScalar? (c :: s) = readMagnitude? false (c :: s) := by
  rw [readScalar?]
  all_goals
    rintro t ⟨⟩
    exact absurd h (by decide)

theorem readScalar?_ofInt (n : Int) {r : Text} (h : EndsNumber r) :
    readScalar? (ofInt n ++ r) = some (.int n, r) := by
  cases n with
  | ofNat n =>
    obtain ⟨c, t, hct⟩ := List.exists_cons_of_ne_nil (ofNat_ne_nil n)
    have hc : c.isDigit = true := isDigit_of_mem_ofNat (hct ▸ List.mem_cons_self)
    have hread := readMagnitude?_ofNat false n h
    unfold ofInt
    dsimp only
    rw [hct] at hread ⊢
    rw [List.cons_append] at hread ⊢
    rw [readScalar?_of_isDigit hc, hread]
    rfl
  | negSucc n => exact readMagnitude?_ofNat true (n + 1) h

theorem mem_ofInt {n : Int} {c : Char} (h : c ∈ ofInt n) : c = '-' ∨ c.isDigit = true := by
  cases n with
  | ofNat n => exact .inr (isDigit_of_mem_ofNat h)
  | negSucc n => exact (List.mem_cons.1 h).imp_right isDigit_of_mem_ofNat

theorem ofInt_ne_nil (n : Int) : ofInt n ≠ [] := by
  cases n with
  | ofNat n => exact ofNat_ne_nil n
  | negSucc n => exact List.cons_ne_nil _ _

theorem isPlain_ofInt (n : Int) : IsPlain (ofInt n) := by
  intro c hc
  apply isPlain_singleton (c := c) ?_ c List.mem_cons_self
  rcases mem_ofInt hc with rfl | hdigit
  · decide
  · have := toNat_of_isDigit hdigit
    omega

end PinGate.Json
