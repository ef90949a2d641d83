-- Strings in ASCII. What stands between the quotes is told piece by piece: characters that stand
-- for themselves, letters behind a backslash, and 16-bit units by their numbers, two for a character
-- beyond the first 65536. A string ends where its pieces end, whatever stands behind it, and says
-- the text that it was written for.
import PinGate.Proofs.Json.Scalars

namespace PinGate.Json

open Text

/-! ## The pieces of a string -/

/-- A piece of a string, and the unit that it stands for. -/
inductive IsPiece : Text → Nat → Prop where
  | plain {c : Char} (hcontrol : 0x20 ≤ c.toNat) (hquote : c ≠ '"') (hslash : c ≠ '\\') :
    IsPiece [c] c.toNat
  | short {e c : Char} (h : unescape? e = some c) : IsPiece ['\\', e] c.toNat
  | unit {a b c d : Char} {n : Nat} (h : hexUnit? a b c d = some n) :
    IsPiece ['\\', 'u', a, b, c, d] n

/-- A row of pieces, and the units that they stand for. -/
inductive IsBody : Text → List Nat → Prop where
  | nil : IsBody [] []
  | cons {p s : Text} {n : Nat} {ns : List Nat} (hp : IsPiece p n) (hs : IsBody s ns) :
    IsBody (p ++ s) (n :: ns)

/-- A string says a text, in printing ASCII: between its quotes are pieces of which the units, pairs
of them joined to one character, are the text. -/
structure Says (literal t : Text) : Prop where
  pieces : ∃ body units, literal = '"' :: (body ++ ['"']) ∧ IsBody body units ∧
    pairUp units = t.map Char.toNat
  printing : ∀ c ∈ literal, 0x20 ≤ c.toNat ∧ c.toNat < 0x7F

section

variable {p s t u literal : Text} {n : Nat} {ns ms : List Nat} {c e : Char}

theorem IsBody.of_piece (h : IsPiece p n) : IsBody p [n] := by
  rw [← List.append_nil p]
  exact .cons h .nil

theorem IsBody.append (hs : IsBody s ns) (ht : IsBody t ms) : IsBody (s ++ t) (ns ++ ms) := by
  induction hs with
  | nil => exact ht
  | cons hp _ ih =>
    rw [List.append_assoc]
    exact .cons hp ih

/-! ## Reading -/

/-- The letter of a unit's number is no short escape. -/
theorem ne_of_unescape? (h : unescape? e = some c) : e ≠ 'u' := by
  rintro rfl
  cases h

theorem IsPiece.readUnits?_append (h : IsPiece p n) (r : Text) :
    readUnits? (p ++ r) = (readUnits? r).map fun x => (n :: x.1, x.2) := by
  cases h with
  | plain hcontrol hquote hslash => exact readUnits?_plain r hquote hslash hcontrol
  | short h => exact readUnits?_escape r (ne_of_unescape? h) h
  | unit h => exact readUnits?_unit r h

theorem IsBody.readUnits?_append (h : IsBody s ns) (r : Text) :
    readUnits? (s ++ '"' :: r) = some (ns, r) := by
  induction h with
  | nil => rfl
  | cons hp _ ih =>
    rw [List.append_assoc, hp.readUnits?_append, ih]
    rfl

/-- Behind its opening quote a string is read up to its closing one, and as the text it says. -/
theorem Says.readString? (h : Says literal t) :
    ∃ s, literal = '"' :: s ∧ ∀ r, Json.readString? (s ++ r) = some (t.map Char.toNat, r) := by
  obtain ⟨body, units, rfl, hbody, hunits⟩ := h.pieces
  refine ⟨body ++ ['"'], rfl, fun r => ?_⟩
  unfold Json.readString?
  rw [List.append_assoc, List.singleton_append, hbody.readUnits?_append, Option.map_some]
  dsimp only
  rw [hunits]

/-- A string says one text only. -/
theorem Says.unique (ht : Says literal t) (hu : Says literal u) : t = u := by
  obtain ⟨s, rfl, hread⟩ := ht.readString?
  obtain ⟨_, heq, hread'⟩ := hu.readString?
  cases heq
  have hpoints := (hread []).symm.trans (hread' [])
  simp only [Option.some.injEq, Prod.mk.injEq, and_true] at hpoints
  exact List.map_injective_iff.2 (Function.LeftInverse.injective Char.ofNat_toNat) hpoints

/-! ## Writing -/

theorem hexDigit_printing : ∀ m < 16, 0x20 ≤ (hexDigit m).toNat ∧ (hexDigit m).toNat < 0x7F := by
  decide

theorem shortEscape?_printing (h : shortEscape? c = some e) :
    c.toNat < 0x7F ∧ 0x20 ≤ e.toNat ∧ e.toNat < 0x7F := by
  unfold shortEscape? at h
  repeat' split at h
  all_goals cases h
  all_goals subst_vars
  all_goals decide

theorem isPiece_unitEscape (h : n < 0x10000) : IsPiece (unitEscape n) n := by
  obtain ⟨a, b, d, f, hhex, hunit⟩ := exists_hex_four n h
  unfold unitEscape
  rw [hhex]
  exact .unit hunit

theorem unitEscape_printing (n : Nat) :
    ∀ c ∈ unitEscape n, 0x20 ≤ c.toNat ∧ c.toNat < 0x7F := by
  have hdigit (m : Nat) := hexDigit_printing (m % 16) (Nat.mod_lt m (by decide))
  simp [unitEscape, hex, hdigit]

theorem toNat_lt (c : Char) : c.toNat < 0x110000 := by
  have hc : c.toNat < 0xd800 ∨ 0xdfff < c.toNat ∧ c.toNat < 0x110000 := c.valid
  omega

theorem units16_lt (c : Char) : ∀ n ∈ units16 c.toNat, n < 0x10000 := by
  have hc := toNat_lt c
  unfold units16
  intro n hn
  split at hn <;> simp at hn <;> omega

theorem pairUp_of_not_high (h : ¬ (0xD800 ≤ n ∧ n < 0xDC00)) (ns : List Nat) :
    pairUp (n :: ns) = n :: pairUp ns := by
  cases ns with
  | nil => rfl
  | cons low r =>
    rw [pairUp, if_neg]
    simp only [Bool.and_eq_true, decide_eq_true_eq]
    tauto

theorem pairUp_pair {high low : Nat} (hhigh : high < 0x400) (hlow : low < 0x400) (ns : List Nat) :
    pairUp ((0xD800 + high) :: (0xDC00 + low) :: ns) =
      (0x10000 + high * 0x400 + low) :: pairUp ns := by
  rw [pairUp, if_pos, Nat.add_sub_cancel_left, Nat.add_sub_cancel_left]
  simp only [Bool.and_eq_true, decide_eq_true_eq]
  omega

/-- A character beyond the first 65536 is one again when its two units are paired up. -/
theorem pairUp_units16 (c : Char) (ns : List Nat) :
    pairUp (units16 c.toNat ++ ns) = c.toNat :: pairUp ns := by
  have hc := toNat_lt c
  unfold units16
  split
  · refine pairUp_of_not_high ?_ ns
    have hsurrogate := isSurrogate_toNat c
    simp only [isSurrogate, Bool.and_eq_false_iff, decide_eq_false_iff_not] at hsurrogate
    omega
  · have hwhole : 0x10000 + (c.toNat - 0x10000) / 0x400 * 0x400 + (c.toNat - 0x10000) % 0x400 =
        c.toNat := by omega
    have hhigh : (c.toNat - 0x10000) / 0x400 < 0x400 := by omega
    have hlow : (c.toNat - 0x10000) % 0x400 < 0x400 := Nat.mod_lt _ (by decide)
    rw [List.cons_append, List.singleton_append, pairUp_pair hhigh hlow, hwhole]

theorem isBody_flatMap_unitEscape (h : ∀ n ∈ ns, n < 0x10000) :
    IsBody (ns.flatMap unitEscape) ns := by
  induction ns with
  | nil => exact .nil
  | cons n ns ih =>
    rw [List.flatMap_cons]
    exact .cons (isPiece_unitEscape (h n List.mem_cons_self))
      (ih fun m hm => h m (List.mem_cons_of_mem n hm))

theorem units16_of_ascii (h : c.toNat < 0x7F) : units16 c.toNat = [c.toNat] :=
  if_pos (by omega)

theorem isBody_writeAsciiChar (c : Char) : IsBody (writeAsciiChar c) (units16 c.toNat) := by
  unfold writeAsciiChar
  cases hescape : shortEscape? c with
  | some e =>
    rw [units16_of_ascii (shortEscape?_printing hescape).1]
    exact .of_piece (.short (shortEscape?_eq_some hescape).2.1)
  | none =>
    obtain ⟨hquote, hslash⟩ := shortEscape?_eq_none hescape
    dsimp only
    split
    · next hc =>
      rw [Bool.and_eq_true, decide_eq_true_eq, decide_eq_true_eq] at hc
      rw [units16_of_ascii hc.2]
      exact .of_piece (.plain hc.1 hquote hslash)
    · exact isBody_flatMap_unitEscape (units16_lt c)

theorem writeAsciiChar_printing (c : Char) :
    ∀ d ∈ writeAsciiChar c, 0x20 ≤ d.toNat ∧ d.toNat < 0x7F := by
  unfold writeAsciiChar
  cases hescape : shortEscape? c with
  | some e =>
    have he := (shortEscape?_printing hescape).2
    simpa using he
  | none =>
    dsimp only
    split
    · next hc => simpa using hc
    · intro d hd
      obtain ⟨n, -, hd⟩ := List.mem_flatMap.1 hd
      exact unitEscape_printing n d hd

end

/-- A text that is written in ASCII is said by what is written. -/
theorem says_writeAsciiString (t : Text) : Says (writeAsciiString t) t where
  pieces := by
    refine ⟨t.flatMap writeAsciiChar, t.flatMap fun c => units16 c.toNat, rfl, ?_, ?_⟩
    · induction t with
      | nil => exact .nil
      | cons c t ih => exact (isBody_writeAsciiChar c).append ih
    · induction t with
      | nil => rfl
      | cons c t ih => rw [List.flatMap_cons, pairUp_units16, ih, List.map_cons]
  printing := by
    intro d hd
    simp only [writeAsciiString, List.cons_append, List.mem_cons, List.mem_append,
      List.mem_flatMap, List.not_mem_nil, or_false] at hd
    rcases hd with rfl | ⟨c, -, hd⟩ | rfl
    · decide
    · exact writeAsciiChar_printing c d hd
    · decide

end PinGate.Json
