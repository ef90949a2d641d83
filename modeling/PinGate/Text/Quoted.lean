-- Quoted form of a text, for messages: what stands between the quotes shows every character
-- unambiguously. Single quotes are used unless the text holds a single quote and no double
-- quote.
import PinGate.Text.Basic
import PinGate.Text.Printable

namespace PinGate.Text

/-- A lowercase hexadecimal digit. -/
def hexDigit (n : Nat) : Char := Nat.digitChar n

/-- The last `width` hexadecimal digits of a number, leading zeros included. -/
def hex : Nat → Nat → Text
  | 0, _ => []
  | width + 1, n => hex width (n / 16) ++ [hexDigit (n % 16)]

/-- One code point between quotes: the backslash and the quote have a backslash in front, three
controls have letters, and what does not print has its number in two, four or eight digits. -/
def quotePoint (quote : Char) (n : Nat) : Text :=
  if n == quote.toNat || n == '\\'.toNat then ['\\', Char.ofNat n]
  else if n == '\t'.toNat then ['\\', 't']
  else if n == '\n'.toNat then ['\\', 'n']
  else if n == '\r'.toNat then ['\\', 'r']
  else if isPrintable n then [Char.ofNat n]
  else if n ≤ 0xFF then '\\' :: 'x' :: hex 2 n
  else if n ≤ 0xFFFF then '\\' :: 'u' :: hex 4 n
  else '\\' :: 'U' :: hex 8 n

/-- The quote that fits a text. -/
def quoteFor (points : List Nat) : Char :=
  if points.contains '\''.toNat && !points.contains '"'.toNat then '"' else '\''

/-- The quoted form of a row of code points, which may be no text. -/
def quotedPoints (points : List Nat) : Text :=
  let q := quoteFor points
  q :: points.flatMap (quotePoint q) ++ [q]

/-- The quoted form of a text. -/
def quoted (s : Text) : Text := quotedPoints (s.map Char.toNat)

end PinGate.Text
