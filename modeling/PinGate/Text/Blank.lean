-- Blank characters, the wide sense: everything that separates words in some script, and the
-- four information separators. Zero-width space and byte order mark are not blank.
import PinGate.Text.Basic

namespace PinGate.Text

/-- Whether a character separates words. -/
def isBlank (c : Char) : Bool :=
  let n := c.toNat
  (9 ≤ n && n ≤ 13) || (28 ≤ n && n ≤ 32) || n == 0x85 || n == 0xA0 || n == 0x1680 ||
    (0x2000 ≤ n && n ≤ 0x200A) || n == 0x2028 || n == 0x2029 || n == 0x202F || n == 0x205F ||
    n == 0x3000

/-- The text without blanks at either end. -/
def trim (s : Text) : Text := ((s.dropWhile isBlank).reverse.dropWhile isBlank).reverse

/-- The text without the blanks it starts with. -/
def skipBlanks (s : Text) : Text := s.dropWhile isBlank

/-- The text after at least one blank, all blanks skipped. -/
def skipSomeBlanks? : Text → Option Text
  | [] => none
  | c :: cs => if isBlank c then some (skipBlanks cs) else none

theorem length_skipBlanks_le (s : Text) : (skipBlanks s).length ≤ s.length :=
  length_dropWhile_le isBlank s

theorem length_of_skipSomeBlanks? {s r : Text} (h : skipSomeBlanks? s = some r) :
    r.length < s.length := by
  cases s with
  | nil => simp [skipSomeBlanks?] at h
  | cons c cs =>
    by_cases hc : isBlank c = true
    · simp only [skipSomeBlanks?, hc, if_true, Option.some.injEq] at h
      rw [← h, List.length_cons]
      exact Nat.lt_succ_of_le (length_skipBlanks_le cs)
    · simp [skipSomeBlanks?, hc] at h

end PinGate.Text
