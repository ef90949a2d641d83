-- Codes for emoji: the name of one between two colons is shown as its picture. A name may be
-- followed by a tone of skin, and the code by the way in which the picture is shown. What stands
-- between two colons and names nothing stays as it is, colons included.
import PinGate.Terminal.EmojiNames
import PinGate.Text.Blank

namespace PinGate.Terminal

open Text

/-! ## The table -/

/-- An emoji: its name, whether it comes in tones of skin, and its picture. -/
structure Emoji where
  name : Text
  toned : Bool
  picture : Text
  deriving Repr, DecidableEq

namespace Emoji

/-- The emoji of an entry of the table. -/
def ofEntry (entry : Text) : Emoji :=
  let isSign := fun c => c == '=' || c == '~'
  let rest := entry.dropWhile (!isSign ·)
  ⟨entry.takeWhile (!isSign ·), rest.head? == some '~', rest.drop 1⟩

/-- All emoji. -/
def all : List Emoji := emojiLines.flatMap fun l => (l.toList.splitOn ' ').map ofEntry

/-! ## Names -/

/-- The tones of skin, by the words that stand behind a name. -/
def tones : List (Text × Char) :=
  [("_light_skin_tone".toList, Char.ofNat 0x1F3FB),
   ("_medium-light_skin_tone".toList, Char.ofNat 0x1F3FC),
   ("_medium_skin_tone".toList, Char.ofNat 0x1F3FD),
   ("_medium-dark_skin_tone".toList, Char.ofNat 0x1F3FE),
   ("_dark_skin_tone".toList, Char.ofNat 0x1F3FF)]

/-- The sign that asks for the coloured form of a character. -/
def colourSign : Char := Char.ofNat 0xFE0F

/-- The sign that asks for the plain form of a character. -/
def plainSign : Char := Char.ofNat 0xFE0E

/-- A picture in a tone, which stands behind its first character in place of a sign for the
coloured form. -/
def inTone (tone : Char) : Text → Text
  | [] => []
  | c :: r => c :: tone :: if r.head? == some colourSign then r.drop 1 else r

/-- The small form of a letter, as far as it occurs in names. -/
def small (c : Char) : Char :=
  let n := c.toNat
  if n == 0x212A then 'k'
  else if n == 0x212B then 'å'
  else if 0xC0 ≤ n && n ≤ 0xDE && n != 0xD7 then Char.ofNat (n + 32)
  else c.toLower

/-- The picture of a name, in a tone if the name ends with one. -/
def ofName? (name : Text) : Option Text :=
  match all.find? (·.name == name) with
  | some e => some e.picture
  | none =>
    tones.findSome? fun (words, tone) =>
      if endsWith words name then
        (all.find? fun e => e.toned && e.name == dropSuffix words name).map (inTone tone ·.picture)
      else none

/-- The picture of what stands between the colons of a code, with the form it asks for. -/
def ofCode? (code : Text) : Option Text :=
  let form (words : Text) (sign : Char) : Option Text :=
    (ofName? ((dropSuffix words code).map small)).map (· ++ [sign])
  if endsWith "-emoji".toList code then form "-emoji".toList colourSign
  else if endsWith "-text".toList code then form "-text".toList plainSign
  else ofName? (code.map small)

/-! ## Codes in a text -/

/-- A character of a code. -/
def isCodeChar (c : Char) : Bool := c != ':' && !isBlank c

/-- What the code that starts a text is shown as, and what follows it. -/
def readCode? : Text → Option (Text × Text)
  | ':' :: r =>
    match r.dropWhile isCodeChar with
    | ':' :: rest =>
      let code := r.takeWhile isCodeChar
      some ((ofCode? code).getD (':' :: code ++ [':']), rest)
    | _ => none
  | _ => none

theorem length_of_readCode? {s shown r : Text} (h : readCode? s = some (shown, r)) :
    r.length < s.length := by
  match s with
  | [] => simp [readCode?] at h
  | c :: cs =>
    by_cases hc : c = ':'
    · subst hc
      simp only [readCode?] at h
      split at h
      · next rest hr =>
        have hle := length_dropWhile_le isCodeChar cs
        simp only [Option.some.injEq, Prod.mk.injEq] at h
        rw [hr, List.length_cons, h.2] at hle
        simp only [List.length_cons]
        omega
      · simp at h
    · simp [readCode?, hc] at h

/-- The text with pictures for its codes. -/
def render (s : Text) : Text :=
  match _h : readCode? s with
  | some (shown, r) => shown ++ render r
  | none =>
    match s with
    | [] => []
    | c :: cs => c :: render cs
termination_by s.length
decreasing_by
  · exact length_of_readCode? _h
  · exact Nat.lt_succ_self _

@[simp]
theorem render_nil : render [] = [] := by
  rw [render]
  rfl

theorem render_of_none {c : Char} {s : Text} (h : readCode? (c :: s) = none) :
    render (c :: s) = c :: render s := by
  rw [render]
  split
  · next h' => cases h.symm.trans h'
  · rfl

/-- Without a colon there is no code. -/
theorem render_of_not_mem {s : Text} (h : ':' ∉ s) : render s = s := by
  induction s with
  | nil => exact render_nil
  | cons c s ih =>
    obtain ⟨hc, hs⟩ := not_or.1 (mt List.mem_cons.2 h)
    have hnone : readCode? (c :: s) = none := by
      rw [readCode?]
      intro _ hcolon
      exact hc (List.cons.inj hcolon).1.symm
    rw [render_of_none hnone, ih hs]

end Emoji

end PinGate.Terminal
