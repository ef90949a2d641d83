-- Patterns for paths. A star stands for any text, slashes and line feeds included; a question
-- mark for one character; brackets for one character of a set. A pattern is read into its fixed
-- pieces, the piece in front of the first star and one behind each star.
import PinGate.Text.Basic

namespace PinGate.Glob

/-! ## Sets of characters -/

/-- What stands between brackets, cut at the hyphens that make ranges: the last character before
a cut and the first behind it are the ends of a range. The first `skip` characters hold no cut,
and neither do the first two of a later part. -/
def cutRanges (skip : Nat) (s : Text) : List Text :=
  match _h : (s.drop skip).dropWhile (· != '-') with
  | [] => [s]
  | _ :: rest =>
    let before := s.take skip ++ (s.drop skip).takeWhile (· != '-')
    if rest.isEmpty then [before ++ ['-']] else before :: cutRanges 2 rest
termination_by s.length
decreasing_by
  have := Text.length_dropWhile_le (· != '-') (s.drop skip)
  rw [_h, List.length_cons, List.length_drop] at this
  omega

/-- A part put in front of others. Where the range between them would run backwards, its two
ends vanish and the parts grow together. -/
def joinPart (part : Text) : List Text → List Text
  | [] => [part]
  | next :: parts =>
    match part.getLast?, next.head? with
    | some low, some high =>
      if high < low then (part.dropLast ++ next.tail) :: parts else part :: next :: parts
    | _, _ => part :: next :: parts

/-- Characters and ranges, from parts and the hyphens between them; `none` is such a hyphen. -/
def readRanges : List (Option Char) → List (Char × Char)
  | some low :: none :: some high :: rest => (low, high) :: readRanges rest
  | some c :: rest => (c, c) :: readRanges rest
  | none :: rest => ('-', '-') :: readRanges rest
  | [] => []

/-- A set of characters, or all others. -/
structure CharSet where
  negated : Bool
  ranges : List (Char × Char)
  deriving Repr, DecidableEq

namespace CharSet

/-- Whether a character belongs to the set. -/
def has (s : CharSet) (c : Char) : Bool :=
  s.negated != s.ranges.any fun r => r.1 ≤ c && c ≤ r.2

/-- The set that stands between brackets. An exclamation mark in front stands for all others. -/
def ofBody (body : Text) : CharSet :=
  let skip := if body.head? == some '!' then 2 else 1
  let parts := (cutRanges skip body).foldr joinPart []
  let signs := [none].intercalate (parts.map (·.map some))
  match signs with
  | some '!' :: rest => ⟨true, readRanges rest⟩
  | _ => ⟨false, readRanges signs⟩

end CharSet

/-- The set that starts a text behind its opening bracket, and the rest behind the closing one.
A closing bracket that stands first, or first behind an exclamation mark, belongs to the set. -/
def readSet? (s : Text) : Option (CharSet × Text) :=
  let mark := s.takeWhile (· == '!') |>.take 1
  let bracket := (s.drop mark.length).takeWhile (· == ']') |>.take 1
  let lead := mark ++ bracket
  match (s.drop lead.length).dropWhile (· != ']') with
  | [] => none
  | _ :: rest => some (.ofBody (lead ++ (s.drop lead.length).takeWhile (· != ']')), rest)

theorem length_of_readSet? {s r : Text} {c : CharSet} (h : readSet? s = some (c, r)) :
    r.length < s.length := by
  simp only [readSet?] at h
  split at h
  · simp at h
  · next d rest hd =>
    simp only [Option.some.injEq, Prod.mk.injEq] at h
    have hle := Text.length_dropWhile_le (· != ']')
      (s.drop (((s.takeWhile (· == '!')).take 1) ++
        (((s.drop ((s.takeWhile (· == '!')).take 1).length).takeWhile (· == ']')).take 1)).length)
    rw [hd, List.length_cons, List.length_drop] at hle
    rw [← h.2]
    omega

/-! ## Patterns -/

/-- What one character of a fixed piece stands for. -/
inductive Atom where
  | one
  | char (c : Char)
  | set (s : CharSet)
  deriving Repr, DecidableEq

/-- Whether a character is one that an atom stands for. -/
def Atom.admits : Atom → Char → Bool
  | one, _ => true
  | char a, c => a == c
  | set s, c => s.has c

/-- A pattern: the piece in front of the first star, and the pieces behind the stars. -/
structure Pattern where
  head : List Atom
  tails : List (List Atom)
  deriving Repr, DecidableEq

namespace Pattern

/-- A pattern with one more atom in front. -/
def cons (a : Atom) (p : Pattern) : Pattern := { p with head := a :: p.head }

/-- The pattern that a text writes. A bracket that is never closed stands for itself. -/
def parse (s : Text) : Pattern :=
  match s with
  | [] => ⟨[], []⟩
  | '*' :: cs =>
    let p := parse cs
    ⟨[], p.head :: p.tails⟩
  | '?' :: cs => cons .one (parse cs)
  | '[' :: cs =>
    match _h : readSet? cs with
    | some (set, rest) => cons (.set set) (parse rest)
    | none => cons (.char '[') (parse cs)
  | c :: cs => cons (.char c) (parse cs)
termination_by s.length
decreasing_by
  all_goals simp only [List.length_cons]
  all_goals first
    | exact Nat.lt_succ_self _
    | exact Nat.lt_succ_of_lt (length_of_readSet? _h)

/-- What follows a fixed piece at the start of a text. -/
def dropPiece? : List Atom → Text → Option Text
  | [], s => some s
  | _ :: _, [] => none
  | a :: as, c :: cs => if a.admits c then dropPiece? as cs else none

/-- What follows the first place where a fixed piece stands. -/
def afterPiece? (piece : List Atom) : Text → Option Text
  | [] => dropPiece? piece []
  | c :: cs => (dropPiece? piece (c :: cs)).orElse fun _ => afterPiece? piece cs

/-- Whether a text ends with a fixed piece. -/
def endsWithPiece (piece : List Atom) (s : Text) : Bool :=
  piece.length ≤ s.length && dropPiece? piece (s.drop (s.length - piece.length)) == some []

/-- Whether a text is made of the pieces behind stars, with any text in front of each. It is
enough to look for the first place of each but the last. -/
def tailsMatch : List (List Atom) → Text → Bool
  | [], s => s.isEmpty
  | [piece], s => endsWithPiece piece s
  | piece :: pieces, s =>
    match afterPiece? piece s with
    | some r => tailsMatch pieces r
    | none => false

/-- Whether a text is one that a pattern stands for. -/
def admits (p : Pattern) (s : Text) : Bool :=
  match dropPiece? p.head s with
  | some r => tailsMatch p.tails r
  | none => false

end Pattern

end PinGate.Glob
