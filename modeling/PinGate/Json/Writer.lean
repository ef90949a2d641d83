-- Writing a JSON document on several lines, each item and member on its own, two spaces further
-- in than what it belongs to. Empty arrays and objects stay on one line.
import PinGate.Json.Literal
import PinGate.Json.Value

namespace PinGate.Json

open Text

/-- A line end and the blanks in front of what stands at a depth. -/
def newLine (depth : Nat) : Text := '\n' :: List.replicate (2 * depth) ' '

/-- Parts between brackets, each on its own line at the depth. -/
def bracketed (opening closing : Char) (depth : Nat) (parts : List Text) : Text :=
  if parts.isEmpty then [opening, closing]
  else
    opening :: newLine (depth + 1) ++ (',' :: newLine (depth + 1)).intercalate parts ++
      newLine depth ++ [closing]

mutual

/-- A value at a depth. Only whole numbers are written; other numbers, and strings that are no
text, are written as null. -/
def writeValue (depth : Nat) : Value → Text
  | .null => "null".toList
  | .bool true => "true".toList
  | .bool false => "false".toList
  | .int n => ofInt n
  | .real _ => "null".toList
  | .string s => writeString s
  | .unpaired _ => "null".toList
  | .array items => bracketed '[' ']' depth (writeItems (depth + 1) items)
  | .object members => bracketed '{' '}' depth (writeMembers (depth + 1) members)

/-- The items of an array. -/
def writeItems (depth : Nat) : List Value → List Text
  | [] => []
  | v :: vs => writeValue depth v :: writeItems depth vs

/-- The members of an object. -/
def writeMembers (depth : Nat) : List (Text × Value) → List Text
  | [] => []
  | (name, v) :: ms =>
    (writeString name ++ ':' :: ' ' :: writeValue depth v) :: writeMembers depth ms

end

/-- A document. -/
def write (v : Value) : Text := writeValue 0 v

end PinGate.Json
