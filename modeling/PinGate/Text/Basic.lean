-- Texts, and the few ways of cutting them that the gate needs. Every function walks the
-- characters once from the left; the small lemmas say what is lost and what is kept.
namespace PinGate

/-- A text, character by character. -/
abbrev Text := List Char

namespace Text

/-! ## Numbers as text -/

/-- The decimal digits of a number, without leading zeros. -/
def ofNat (n : Nat) : Text := Nat.toDigits 10 n

/-- A number with a minus sign in front when it is negative. -/
def ofInt : Int → Text
  | .ofNat n => ofNat n
  | .negSucc n => '-' :: ofNat (n + 1)

/-! ## Lines -/

/-- The pieces between line feeds; there is always at least one. -/
def lines (s : Text) : List Text := s.splitOn '\n'

/-- The pieces joined by line feeds. -/
def unlines (ls : List Text) : Text := ['\n'].intercalate ls

/-- A piece of a text holds only characters of the text. -/
theorem mem_of_mem_splitOn {sep c : Char} {s piece : Text} (hp : piece ∈ s.splitOn sep)
    (hc : c ∈ piece) : c ∈ s := by
  induction s generalizing piece with
  | nil => simp_all [List.splitOn]
  | cons a s ih =>
    rw [List.splitOn, List.splitOnP_cons_eq_if_modifyHead] at hp
    split at hp
    · rcases List.mem_cons.1 hp with rfl | hp
      · simp at hc
      · exact List.mem_cons_of_mem _ (ih hp hc)
    · cases hs : s.splitOnP (· == sep) with
      | nil => simp [hs] at hp
      | cons q qs =>
        have hsplit : s.splitOn sep = q :: qs := hs
        rw [hs, List.modifyHead_cons] at hp
        rcases List.mem_cons.1 hp with rfl | hp
        · rcases List.mem_cons.1 hc with rfl | hc
          · exact List.mem_cons_self
          · exact List.mem_cons_of_mem _ (ih (hsplit ▸ List.mem_cons_self) hc)
        · exact List.mem_cons_of_mem _ (ih (hsplit ▸ List.mem_cons_of_mem _ hp) hc)

/-- What follows the first line feed; nothing when there is none. -/
def nextLine (s : Text) : Text := (s.dropWhile (· != '\n')).drop 1

theorem length_dropWhile_le (p : Char → Bool) (s : Text) : (s.dropWhile p).length ≤ s.length :=
  (List.dropWhile_sublist p).length_le

/-- What is dropped in front of a character that stops it does not depend on what follows. -/
theorem dropWhile_append_stop {p : Char → Bool} {w : Char} (h : p w = false) (s b : Text) :
    (s ++ w :: b).dropWhile p = s.dropWhile p ++ w :: b := by
  induction s with
  | nil => simp [h]
  | cons c s ih =>
    by_cases hc : p c = true
    · simp [hc, ih]
    · simp [hc]

theorem length_nextLine_le (s : Text) : (nextLine s).length ≤ s.length := by
  have := length_dropWhile_le (· != '\n') s
  simp only [nextLine, List.length_drop]
  omega

theorem length_nextLine_lt {s : Text} (h : s ≠ []) : (nextLine s).length < s.length := by
  have hle := length_dropWhile_le (· != '\n') s
  have hpos := List.length_pos_iff.2 h
  simp only [nextLine, List.length_drop]
  omega

/-! ## Prefixes, suffixes, parts -/

/-- What follows `p` at the start of a text. -/
def dropPrefix? : Text → Text → Option Text
  | [], s => some s
  | _ :: _, [] => none
  | p :: ps, c :: cs => if p = c then dropPrefix? ps cs else none

theorem dropPrefix?_eq_some_iff {p s r : Text} : dropPrefix? p s = some r ↔ s = p ++ r := by
  induction p generalizing s with
  | nil => simp [dropPrefix?, eq_comm]
  | cons a p ih =>
    cases s with
    | nil => simp [dropPrefix?]
    | cons c s =>
      by_cases h : a = c
      · simp [dropPrefix?, h, ih]
      · simp [dropPrefix?, h, Ne.symm h]

theorem length_of_dropPrefix? {p s r : Text} (h : dropPrefix? p s = some r) :
    s.length = p.length + r.length := by
  rw [dropPrefix?_eq_some_iff.1 h, List.length_append]

/-- What follows one character of a class at the start of a text. -/
def dropOne? (p : Char → Bool) : Text → Option Text
  | [] => none
  | c :: cs => if p c then some cs else none

theorem length_of_dropOne? {p : Char → Bool} {s r : Text} (h : dropOne? p s = some r) :
    s.length = r.length + 1 := by
  cases s with
  | nil => simp [dropOne?] at h
  | cons c cs =>
    by_cases hc : p c = true
    · simp only [dropOne?, hc, if_true, Option.some.injEq] at h
      simp [h]
    · simp [dropOne?, hc] at h

/-- Whether `p` starts the text. -/
def startsWith (p s : Text) : Bool := p.isPrefixOf s

/-- Whether `p` ends the text. -/
def endsWith (p s : Text) : Bool := p.isSuffixOf s

/-- Whether `p` stands anywhere in the text. -/
def contains (p : Text) : Text → Bool
  | [] => p.isEmpty
  | c :: cs => p.isPrefixOf (c :: cs) || contains p cs

/-- What follows the last place where `p` stands. -/
def afterLast? (p : Text) : Text → Option Text
  | [] => dropPrefix? p []
  | c :: cs => (afterLast? p cs).orElse fun _ => dropPrefix? p (c :: cs)

/-- The text without `p` at its end, or as it is when it does not end so. -/
def dropSuffix (p s : Text) : Text :=
  if p.isSuffixOf s then s.take (s.length - p.length) else s

/-- The two sides of the first `sep`. -/
def splitOnce? (sep : Char) (s : Text) : Option (Text × Text) :=
  match s.dropWhile (· != sep) with
  | [] => none
  | _ :: r => some (s.takeWhile (· != sep), r)

/-! ## Runs -/

/-- The longest nonempty run of characters of one class at the start of a text, and the rest. -/
def run? (p : Char → Bool) : Text → Option (Text × Text)
  | [] => none
  | c :: cs => if p c then some (c :: cs.takeWhile p, cs.dropWhile p) else none

theorem length_of_run? {p : Char → Bool} {s w r : Text} (h : run? p s = some (w, r)) :
    r.length < s.length := by
  cases s with
  | nil => simp [run?] at h
  | cons c cs =>
    by_cases hc : p c = true
    · simp only [run?, hc, if_true, Option.some.injEq, Prod.mk.injEq] at h
      rw [← h.2, List.length_cons]
      exact Nat.lt_succ_of_le (length_dropWhile_le p cs)
    · simp [run?, hc] at h

/-- A run is nonempty, holds only characters of the class, and ends where the class ends. -/
theorem run?_eq_some_iff {p : Char → Bool} {s w r : Text} :
    run? p s = some (w, r) ↔ w ≠ [] ∧ s.takeWhile p = w ∧ s.dropWhile p = r := by
  cases s with
  | nil => simp [run?]; grind
  | cons c cs =>
    by_cases hc : p c = true
    · simp only [run?, hc, if_true, Option.some.injEq, Prod.mk.injEq, List.takeWhile_cons,
        List.dropWhile_cons]
      grind
    · simp only [run?, hc]
      grind [List.takeWhile_cons]

end Text

end PinGate
