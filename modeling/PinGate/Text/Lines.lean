-- Line breaks other than the line feed.
import PinGate.Text.Basic

namespace PinGate.Text

/-- Characters that end a line in text of any origin. A carriage return with a line feed behind
it ends one line, not two. -/
def isLineBreak (c : Char) : Bool :=
  let n := c.toNat
  (10 ≤ n && n ≤ 13) || (28 ≤ n && n ≤ 30) || n == 0x85 || n == 0x2028 || n == 0x2029

/-- The pieces between line breaks. A break at the end of the text starts no further piece. -/
def pieces : Text → List Text
  | [] => []
  | '\r' :: '\n' :: cs => [] :: pieces cs
  | c :: cs =>
    if isLineBreak c then [] :: pieces cs
    else
      match pieces cs with
      | [] => [[c]]
      | l :: ls => (c :: l) :: ls

/-- Every carriage return, with the line feed behind it if there is one, becomes a line feed. -/
def unifyBreaks : Text → Text
  | [] => []
  | '\r' :: '\n' :: cs => '\n' :: unifyBreaks cs
  | c :: cs => (if c = '\r' then '\n' else c) :: unifyBreaks cs

/-- Every carriage return that has a line feed behind it is dropped. -/
def dropReturns : Text → Text
  | [] => []
  | '\r' :: '\n' :: cs => '\n' :: dropReturns cs
  | c :: cs => c :: dropReturns cs

end PinGate.Text
