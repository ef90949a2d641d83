-- Whole numbers as the fields of a record write them. The plain form is a minus and digits with no
-- zero in front. What has another form is read once more in a loose way, which knows blanks around
-- the number, a plus, zeros in front, underscores between digits, and a point with zeros behind it.
import PinGate.Text.Integer

namespace PinGate.Text.Numeral

/-! ## The plain form -/

/-- The number that a text writes in the plain form. Too many digits, of which the minus counts as
one, are told before what follows them is looked at. -/
def readPlain (s : Text) : Except NumberFault Int :=
  let negative := s.head? == some '-'
  let body := if negative then s.drop 1 else s
  let digits := body.takeWhile Char.isDigit
  let rest := body.dropWhile Char.isDigit
  let length := s.length - rest.length
  if digits == ['0'] && rest.isEmpty then .ok 0
  else if digits.isEmpty || digits.head? == some '0' then .error .malformed
  else if length > maxDigits then .error (.tooLong ⟨length⟩)
  else if rest.isEmpty then .ok (if negative then -(numberOf digits : Int) else numberOf digits)
  else .error .malformed

/-! ## The loose form -/

/-- The text without blanks at either end, in the sense of those that may surround a number. -/
def trimBlanks (s : Text) : Text :=
  ((s.dropWhile isNumberBlank).reverse.dropWhile isNumberBlank).reverse

/-- A zero in front of a number, or an underscore among such zeros. -/
def isFiller (c : Char) : Bool := c == '0' || c == '_'

/-- A number without the zeros in front of it and the underscores among these. One zero stays where
no other digit stands before a point or the end; a minus may stand behind the zeros. -/
def dropZeros? (s : Text) : Option Text :=
  let filler := s.takeWhile isFiller
  let rest := s.dropWhile isFiller
  if filler.head? == some '_' then none
  else
    match rest with
    | [] => if filler.getLast? == some '0' then some ['0'] else none
    | c :: _ =>
      if c == '.' then if filler.getLast? == some '0' then some ('0' :: rest) else none
      else if c.isDigit || (c == '-' && !filler.isEmpty) then some rest
      else none

/-- A number without the point and the zeros, one or more, behind it. -/
def dropFraction? (s : Text) : Option Text :=
  match s.dropWhile (· != '.') with
  | [] => some s
  | _ :: zeros =>
    if !zeros.isEmpty && zeros.all (· == '0') then some (s.takeWhile (· != '.')) else none

/-- The number that a text writes in the loose form. -/
def readLoose (s : Text) : Option Int := do
  let (negative, body) := readSign (trimBlanks s)
  let digits ← dropFraction? (← dropZeros? body)
  if underscoresApart digits then
    (readPlain ((if negative then ['-'] else []) ++ digits.filter (· != '_'))).toOption
  else none

/-! ## Both -/

/-- The number that a text writes in either form. Too many digits are told of the plain form
alone. -/
def read (s : Text) : Except NumberFault Int :=
  match readPlain s with
  | .error .malformed =>
    match readLoose s with
    | some n => .ok n
    | none => .error .malformed
  | r => r

end PinGate.Text.Numeral
