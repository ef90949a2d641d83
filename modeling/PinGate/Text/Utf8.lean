-- Reading text from bytes. The first fault is described by the bytes that are wrong and by what
-- is wrong with them; a character that would be fine but for its missing end is told apart.
import PinGate.Text.Basic

namespace PinGate.Text

/-- What is wrong with some bytes. -/
inductive EncodingFlaw where
  /-- No character starts with this byte. -/
  | start
  /-- The bytes start a character, and the next one does not go on with it. -/
  | continuation
  /-- The bytes start a character, and nothing follows. -/
  | truncated
  deriving Repr, DecidableEq

/-- The first fault in a row of bytes: where it starts, the bytes at fault, and the flaw. -/
structure EncodingFault where
  position : Nat
  bytes : List UInt8
  flaw : EncodingFlaw
  deriving Repr, DecidableEq

/-- How a first byte begins a character: its share of the code point, the least and the greatest
second byte, and the number of bytes after the second. -/
structure LeadByte where
  high : Nat
  low : Nat
  top : Nat
  more : Nat

/-- What a byte of 128 or more begins. -/
def leadByte? (b : Nat) : Option LeadByte :=
  if 0xC2 ≤ b && b ≤ 0xDF then some ⟨b - 0xC0, 0x80, 0xBF, 0⟩
  else if b == 0xE0 then some ⟨0, 0xA0, 0xBF, 1⟩
  else if b == 0xED then some ⟨0xD, 0x80, 0x9F, 1⟩
  else if 0xE1 ≤ b && b ≤ 0xEF then some ⟨b - 0xE0, 0x80, 0xBF, 1⟩
  else if b == 0xF0 then some ⟨0, 0x90, 0xBF, 2⟩
  else if 0xF1 ≤ b && b ≤ 0xF3 then some ⟨b - 0xF0, 0x80, 0xBF, 2⟩
  else if b == 0xF4 then some ⟨4, 0x80, 0x8F, 2⟩
  else none

/-- The bytes after the first of a character. `taken` are the bytes so far, `point` their share
of the code point; the next byte must lie between `low` and `top`, and after it come `more`
plain continuation bytes. -/
def readTail (low top more point : Nat) (taken : List UInt8) :
    List UInt8 → Except (List UInt8 × EncodingFlaw) (Char × List UInt8)
  | [] => .error (taken, .truncated)
  | b :: bs =>
    if low ≤ b.toNat && b.toNat ≤ top then
      let point := point * 64 + (b.toNat - 0x80)
      match more with
      | 0 => .ok (Char.ofNat point, bs)
      | m + 1 => readTail 0x80 0xBF m point (taken ++ [b]) bs
    else .error (taken, .continuation)

theorem length_of_readTail {low top more point : Nat} {taken bs r : List UInt8} {c : Char}
    (h : readTail low top more point taken bs = .ok (c, r)) : r.length < bs.length := by
  induction bs generalizing low top more point taken with
  | nil => simp [readTail] at h
  | cons b bs ih =>
    simp only [readTail] at h
    split at h
    · cases more with
      | zero =>
        simp only [Except.ok.injEq, Prod.mk.injEq] at h
        simp [h.2]
      | succ m => exact Nat.lt_succ_of_lt (ih h)
    · simp at h

/-- The text that bytes from `position` on write. -/
def ofBytesFrom (position : Nat) (bytes : List UInt8) : Except EncodingFault Text :=
  match bytes with
  | [] => .ok []
  | b :: bs =>
    if b.toNat < 0x80 then do
      let cs ← ofBytesFrom (position + 1) bs
      return Char.ofNat b.toNat :: cs
    else
      match leadByte? b.toNat with
      | none => .error ⟨position, [b], .start⟩
      | some lead =>
        match h : readTail lead.low lead.top lead.more lead.high [b] bs with
        | .error (taken, flaw) => .error ⟨position, taken, flaw⟩
        | .ok (c, rest) => do
          let cs ← ofBytesFrom (position + 2 + lead.more) rest
          return c :: cs
termination_by bytes.length
decreasing_by
  · simp
  · exact Nat.lt_succ_of_lt (length_of_readTail h)

/-- The text that bytes write. -/
def ofBytes (bytes : List UInt8) : Except EncodingFault Text := ofBytesFrom 0 bytes

/-- The bytes that write a text. -/
def toBytes (s : Text) : List UInt8 := s.flatMap String.utf8EncodeChar

/-- The number of bytes that write a text. -/
def byteLength (s : Text) : Nat := s.foldl (fun n c => n + c.utf8Size) 0

end PinGate.Text
