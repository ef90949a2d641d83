-- Fields of a record that comes from outside: what each may hold, and what is wrong with it.
import PinGate.Json.Value
import PinGate.Text.Numeral

namespace PinGate

open Text Json

/-- What is wrong with a field. -/
inductive FieldFlaw where
  | missing
  | notText
  | notUnicode
  | tooShort
  | notInteger
  | unreadableInteger
  | largeInteger
  | fractional
  | notFinite
  deriving Repr, DecidableEq

/-- The name of a flaw. -/
def FieldFlaw.name : FieldFlaw → Text
  | missing => "missing".toList
  | notText => "string_type".toList
  | notUnicode => "string_unicode".toList
  | tooShort => "string_too_short".toList
  | notInteger => "int_type".toList
  | unreadableInteger => "int_parsing".toList
  | largeInteger => "int_parsing_size".toList
  | fractional => "int_from_float".toList
  | notFinite => "finite_number".toList

/-- A field with its flaw. -/
structure FieldFault where
  field : Text
  flaw : FieldFlaw
  deriving Repr, DecidableEq

/-- The members of a record. -/
abbrev Fields := List (Text × Value)

namespace Fields

/-- The value of a field. -/
def value? (fields : Fields) (name : Text) : Option Value :=
  (fields.reverse.find? fun m => m.1 == name).map Prod.snd

/-- A value as text. -/
def toText : Value → Except FieldFlaw Text
  | .string s => .ok s
  | .unpaired _ => .error .notUnicode
  | _ => .error .notText

/-- A value as text, or nothing. -/
def toText? : Value → Except FieldFlaw (Option Text)
  | .null => .ok none
  | v => (toText v).map some

/-- The largest whole number that a real number may stand for; its negative is the least. -/
def maxOfReal : Nat := 0x7fffffffffffffff

/-- A value as a whole number. -/
def toInteger : Value → Except FieldFlaw Int
  | .int n => .ok n
  | .bool b => .ok (if b then 1 else 0)
  | .string s =>
    match Numeral.read s with
    | .ok n => .ok n
    | .error .malformed => .error .unreadableInteger
    | .error (.tooLong _) => .error .largeInteger
  | .unpaired _ => .error .notUnicode
  | .real (.finite negative m e) =>
    let whole := Binary64.scaled m e
    if whole <<< (-e).toNat != m <<< e.toNat then .error .fractional
    else if whole > maxOfReal then .error .largeInteger
    else .ok (if negative then -(whole : Int) else whole)
  | .real _ => .error .notFinite
  | _ => .error .notInteger

/-- A field that has to be there. -/
def required {α : Type} (fields : Fields) (name : Text) (read : Value → Except FieldFlaw α) :
    Except FieldFault α :=
  match fields.value? name with
  | none => .error ⟨name, .missing⟩
  | some v => (read v).mapError (⟨name, ·⟩)

/-- A field that has a default. -/
def optional {α : Type} (fields : Fields) (name : Text) (default : α)
    (read : Value → Except FieldFlaw α) : Except FieldFault α :=
  match fields.value? name with
  | none => .ok default
  | some v => (read v).mapError (⟨name, ·⟩)

/-- The fault of a field, if it has one. -/
def faultOf {α : Type} : Except FieldFault α → List FieldFault
  | .ok _ => []
  | .error fault => [fault]

end Fields

end PinGate
