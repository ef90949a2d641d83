-- Reading whole numbers from text: blanks around, a sign, digits of any script, and single
-- underscores between digits. A number of more than 4300 digits is refused, and that is told
-- before what follows the digits is looked at.
import PinGate.Text.Blank
import PinGate.Text.Digit

namespace PinGate.Text

/-- The most digits that a number may have. -/
def maxDigits : Nat := 4300

/-- A number was refused because it has this many digits. -/
structure TooLong where
  digits : Nat
  deriving Repr, DecidableEq

/-- Why a text is refused as a whole number. -/
inductive NumberFault where
  /-- It does not write one. -/
  | malformed
  /-- It has too many digits. -/
  | tooLong (fault : TooLong)
  deriving Repr, DecidableEq

/-- A blank as it may surround a number: of the blanks in the first 128 characters, the
information separators do not count. -/
def isNumberBlank (c : Char) : Bool :=
  if c.toNat < 128 then (9 ≤ c.toNat && c.toNat ≤ 13) || c.toNat == 32 else isBlank c

/-- A digit or an underscore. -/
def isNumberPart (c : Char) : Bool := isDecimalDigit c || c == '_'

/-- Whether each underscore stands between two other characters. -/
def underscoresApart (digits : Text) : Bool :=
  digits.head? != some '_' && digits.getLast? != some '_' && !contains ['_', '_'] digits

/-- The sign at the start of a number, and the rest. -/
def readSign : Text → Bool × Text
  | '-' :: s => (true, s)
  | '+' :: s => (false, s)
  | s => (false, s)

/-- The number that a row of digits writes, if they are not too many. -/
def ofDigits (digits : Text) : Except TooLong Nat :=
  if digits.length > maxDigits then .error ⟨digits.length⟩ else .ok (numberOf digits)

/-- The whole number that a text writes. -/
def toInteger (s : Text) : Except NumberFault Int :=
  let (negative, s) := readSign (s.dropWhile isNumberBlank)
  let body := s.takeWhile isNumberPart
  let rest := s.dropWhile isNumberPart
  if body.isEmpty || !underscoresApart body then .error .malformed
  else do
    let n ← (ofDigits (body.filter (· != '_'))).mapError .tooLong
    if (rest.dropWhile isNumberBlank).isEmpty then
      .ok (if negative then -(n : Int) else n)
    else .error .malformed

/-- What a number of too many digits is refused with. -/
def TooLong.message (fault : TooLong) : Text :=
  "Exceeds the limit (4300 digits) for integer string conversion: value has ".toList ++
    ofNat fault.digits ++ " digits; use sys.set_int_max_str_digits() to increase the limit".toList

/-- What a text that writes no number is refused with; of its quoted form, the first 200
characters are shown. -/
def malformedMessage (quotedForm : Text) : Text :=
  "invalid literal for int() with base 10: ".toList ++ quotedForm.take 200

end PinGate.Text
