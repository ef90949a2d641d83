-- Strings of the JSON format between their quotes: reading them, and writing them in two ways,
-- with all of Unicode as it is, or in ASCII alone.
import PinGate.Text.Quoted

namespace PinGate.Json

open Text

/-! ## Writing -/

/-- The letter that stands for a character behind a backslash. -/
def shortEscape? (c : Char) : Option Char :=
  if c = '"' then some '"'
  else if c = '\\' then some '\\'
  else if c = '\n' then some 'n'
  else if c = '\r' then some 'r'
  else if c = '\t' then some 't'
  else if c = '\x08' then some 'b'
  else if c = '\x0c' then some 'f'
  else none

/-- A 16-bit unit by its number. -/
def unitEscape (n : Nat) : Text := '\\' :: 'u' :: hex 4 n

/-- The numbers of a code point's 16-bit units. -/
def units16 (n : Nat) : List Nat :=
  if n < 0x10000 then [n] else [0xD800 + (n - 0x10000) / 0x400, 0xDC00 + (n - 0x10000) % 0x400]

/-- A character, escaped only where it has to be. -/
def writeChar (c : Char) : Text :=
  match shortEscape? c with
  | some e => ['\\', e]
  | none => if c.toNat < 0x20 then unitEscape c.toNat else [c]

/-- A character in printable ASCII. -/
def writeAsciiChar (c : Char) : Text :=
  match shortEscape? c with
  | some e => ['\\', e]
  | none =>
    if 0x20 ≤ c.toNat && c.toNat < 0x7F then [c] else (units16 c.toNat).flatMap unitEscape

/-- A text as a string. -/
def writeString (s : Text) : Text := '"' :: s.flatMap writeChar ++ ['"']

/-- A text as a string in ASCII. -/
def writeAsciiString (s : Text) : Text := '"' :: s.flatMap writeAsciiChar ++ ['"']

/-! ## Reading -/

/-- The value of a hexadecimal digit. -/
def hexValue? (c : Char) : Option Nat :=
  if c.isDigit then some (c.toNat - '0'.toNat)
  else if 'a' ≤ c && c ≤ 'f' then some (c.toNat - 'a'.toNat + 10)
  else if 'A' ≤ c && c ≤ 'F' then some (c.toNat - 'A'.toNat + 10)
  else none

/-- The number of four hexadecimal digits. -/
def hexUnit? (a b c d : Char) : Option Nat := do
  let a ← hexValue? a
  let b ← hexValue? b
  let c ← hexValue? c
  let d ← hexValue? d
  return ((a * 16 + b) * 16 + c) * 16 + d

/-- What a letter behind a backslash stands for. -/
def unescape? (c : Char) : Option Char :=
  if c = '"' || c = '\\' || c = '/' then some c
  else if c = 'n' then some '\n'
  else if c = 'r' then some '\r'
  else if c = 't' then some '\t'
  else if c = 'b' then some '\x08'
  else if c = 'f' then some '\x0c'
  else none

/-- The units of a string up to its closing quote, and what follows. Control characters have to
be escaped. -/
def readUnits? : Text → Option (List Nat × Text)
  | [] => none
  | '"' :: r => some ([], r)
  | '\\' :: 'u' :: a :: b :: c :: d :: r => do
    let n ← hexUnit? a b c d
    let (ns, r) ← readUnits? r
    return (n :: ns, r)
  | '\\' :: e :: r => do
    let c ← unescape? e
    let (ns, r) ← readUnits? r
    return (c.toNat :: ns, r)
  | c :: r =>
    if c.toNat < 0x20 || c = '\\' then none
    else do
      let (ns, r) ← readUnits? r
      return (c.toNat :: ns, r)

/-- Each high surrogate with a low one behind it becomes one code point. -/
def pairUp : List Nat → List Nat
  | high :: low :: r =>
    if 0xD800 ≤ high && high < 0xDC00 && 0xDC00 ≤ low && low < 0xE000 then
      (0x10000 + (high - 0xD800) * 0x400 + (low - 0xDC00)) :: pairUp r
    else high :: pairUp (low :: r)
  | r => r

/-- Whether a code point is a surrogate. -/
def isSurrogate (n : Nat) : Bool := 0xD800 ≤ n && n < 0xE000

/-- The code points of a string behind its opening quote, and what follows. -/
def readString? (s : Text) : Option (List Nat × Text) :=
  (readUnits? s).map fun (units, r) => (pairUp units, r)

/-- The text of code points; a surrogate becomes the replacement character. -/
def textOf (points : List Nat) : Text :=
  points.map fun n => if isSurrogate n then '\uFFFD' else Char.ofNat n

end PinGate.Json
