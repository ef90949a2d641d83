-- Reading a JSON document. Blanks are space, tab and the two line ends only. Beside the numbers
-- of the format, the words NaN, Infinity and -Infinity are numbers. The first fault from the left
-- is told with its place; a whole number of too many digits is one. Nesting has no bound here: an
-- interpreter whose stack is used up by a deep document ends with a failure of its own.
import PinGate.Json.Literal
import PinGate.Json.Value
import PinGate.Text.Integer

namespace PinGate.Json

open Text

/-- What is wrong with a text that is no document. -/
inductive Flaw where
  | noValue
  | noName
  | noColon
  | noComma
  | openString
  | control
  | badEscape
  | badUnit
  | extra
  | mark
  deriving Repr, DecidableEq

/-- A flaw in words. -/
def Flaw.name : Flaw → Text
  | noValue => "Expecting value".toList
  | noName => "Expecting property name enclosed in double quotes".toList
  | noColon => "Expecting ':' delimiter".toList
  | noComma => "Expecting ',' delimiter".toList
  | openString => "Unterminated string starting at".toList
  | control => "Invalid control character at".toList
  | badEscape => "Invalid \\escape".toList
  | badUnit => "Invalid \\uXXXX escape".toList
  | extra => "Extra data".toList
  | mark => "Unexpected UTF-8 BOM (decode using utf-8-sig)".toList

/-- Why a document cannot be read. -/
inductive Fault where
  /-- It has a flaw, and from there on it reads `rest`. -/
  | malformed (flaw : Flaw) (rest : Text)
  | number (fault : TooLong)
  deriving Repr, DecidableEq

/-- A place in a document: its line, the column in that line, and the characters before it. -/
structure Place where
  line : Nat
  column : Nat
  index : Nat
  deriving Repr, DecidableEq

/-- The place from which on a document reads `rest`. -/
def placeOf (document rest : Text) : Place :=
  let front := document.take (document.length - rest.length)
  { line := front.count '\n' + 1
    column := (front.reverse.takeWhile (· != '\n')).length + 1
    index := front.length }

/-- A flaw and its place, as they are told. -/
def Flaw.tell (flaw : Flaw) (place : Place) : Text :=
  flaw.name ++ ": line ".toList ++ Text.ofNat place.line ++ " column ".toList ++
    Text.ofNat place.column ++ " (char ".toList ++ Text.ofNat place.index ++ [')']

/-- The text without the blanks of the format at its start. -/
def skipSpace (s : Text) : Text :=
  s.dropWhile fun c => c == ' ' || c == '\t' || c == '\n' || c == '\r'

/-! ## Numbers -/

/-- The digits of a number's whole part: a zero alone, or digits that start with another. -/
def readWhole? : Text → Option (Text × Text)
  | '0' :: r => some (['0'], r)
  | s => run? Char.isDigit s

/-- The digits behind a point, if there are any. -/
def readFraction? (s : Text) : Option (Text × Text) :=
  (dropPrefix? ['.'] s).bind (run? Char.isDigit)

/-- The number behind the letter of an exponent, if there is one. -/
def readExponent? (s : Text) : Option (Int × Text) := do
  let s ← dropOne? (fun c => c == 'e' || c == 'E') s
  let (negative, s) := readSign s
  let (digits, r) ← run? Char.isDigit s
  return (if negative then -(numberOf digits : Int) else numberOf digits, r)

/-- The number that starts a text behind its sign; with the sign, the text is `start`. -/
def readUnsigned (start : Text) (negative : Bool) (s : Text) : Except Fault (Value × Text) :=
  match readWhole? s with
  | none => .error (.malformed .noValue start)
  | some (whole, s) =>
    let fraction := readFraction? s
    let s := (fraction.map Prod.snd).getD s
    let exponent := readExponent? s
    let s := (exponent.map Prod.snd).getD s
    if fraction.isNone && exponent.isNone then do
      let n ← (ofDigits whole).mapError .number
      return (.int (if negative then -(n : Int) else n), s)
    else
      let places := (fraction.map Prod.fst).getD []
      let shift := (exponent.map Prod.fst).getD 0 - places.length
      .ok (.real (.ofDecimal negative (numberOf (whole ++ places)) shift), s)

/-! ## Values -/

/-- What follows a word, as a value. -/
def readWord (word : Text) (v : Value) (s : Text) : Except Fault (Value × Text) :=
  match dropPrefix? word s with
  | some r => .ok (v, r)
  | none => .error (.malformed .noValue s)

/-- The first flaw of a string that cannot be read. With its opening quote, the string is
`start`. -/
def stringFault (start : Text) : Text → Fault
  | [] => .malformed .openString start
  | '\\' :: 'u' :: a :: b :: c :: d :: r =>
    if r.isEmpty || (hexUnit? a b c d).isNone then
      .malformed .badUnit ('u' :: a :: b :: c :: d :: r)
    else stringFault start r
  | '\\' :: e :: r =>
    if e = 'u' then .malformed .badUnit (e :: r)
    else if (unescape? e).isNone then .malformed .badEscape ('\\' :: e :: r)
    else stringFault start r
  | c :: r => if c.toNat < 0x20 then .malformed .control (c :: r) else stringFault start r

/-- A string behind its opening quote. -/
def readStringValue (s : Text) : Except Fault (Value × Text) :=
  match readString? s with
  | none => .error (stringFault ('"' :: s) s)
  | some (points, r) =>
    .ok (if points.any isSurrogate then .unpaired points else .string (textOf points), r)

mutual

/-- The value that starts a text. The first argument bounds how deep the reading goes. -/
def readValue : Nat → Text → Except Fault (Value × Text)
  | 0, s => .error (.malformed .noValue s)
  | depth + 1, s =>
    match s with
    | '"' :: r => readStringValue r
    | '{' :: r =>
      match skipSpace r with
      | '}' :: r => .ok (.object [], r)
      | r => do
        let (members, r) ← readMembers depth r
        return (.object members, r)
    | '[' :: r =>
      match skipSpace r with
      | ']' :: r => .ok (.array [], r)
      | r => do
        let (items, r) ← readItems depth r
        return (.array items, r)
    | 'n' :: _ => readWord "null".toList .null s
    | 't' :: _ => readWord "true".toList (.bool true) s
    | 'f' :: _ => readWord "false".toList (.bool false) s
    | 'N' :: _ => readWord "NaN".toList (.real .nan) s
    | 'I' :: _ => readWord "Infinity".toList (.real (.infinite false)) s
    | '-' :: 'I' :: _ => readWord "-Infinity".toList (.real (.infinite true)) s
    | '-' :: r => readUnsigned s true r
    | _ => readUnsigned s false s

/-- The items of an array up to its closing bracket. -/
def readItems : Nat → Text → Except Fault (List Value × Text)
  | 0, s => .error (.malformed .noValue s)
  | depth + 1, s => do
    let (v, r) ← readValue depth s
    match skipSpace r with
    | ']' :: r => return ([v], r)
    | ',' :: r => do
      let (vs, r) ← readItems depth (skipSpace r)
      return (v :: vs, r)
    | r => .error (.malformed .noComma r)

/-- The members of an object up to its closing brace. -/
def readMembers : Nat → Text → Except Fault (List (Text × Value) × Text)
  | 0, s => .error (.malformed .noName s)
  | depth + 1, s =>
    match s with
    | '"' :: r =>
      match readString? r with
      | none => .error (stringFault s r)
      | some (name, r) =>
        match skipSpace r with
        | ':' :: r => do
          let (v, r) ← readValue depth (skipSpace r)
          match skipSpace r with
          | '}' :: r => return ([(textOf name, v)], r)
          | ',' :: r => do
            let (ms, r) ← readMembers depth (skipSpace r)
            return ((textOf name, v) :: ms, r)
          | r => .error (.malformed .noComma r)
        | r => .error (.malformed .noColon r)
    | _ => .error (.malformed .noName s)

end

/-- The value that a document writes. -/
def read (document : Text) : Except Fault Value :=
  if startsWith ['\uFEFF'] document then .error (.malformed .mark document)
  else do
    let (v, r) ← readValue (2 * document.length + 2) (skipSpace document)
    let r := skipSpace r
    if r.isEmpty then return v else .error (.malformed .extra r)

end PinGate.Json
