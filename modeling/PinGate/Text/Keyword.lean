-- Words of a language that ignores case. Two letters have foreign forms that count as the same
-- letter: the dotless and the dotted I, and the long s.
import PinGate.Text.Blank

namespace PinGate.Text

/-- Whether `c` is a form of the capital letter or sign `k`. -/
def isFormOf (k c : Char) : Bool :=
  c == k || c == k.toLower || (k == 'I' && (c == 'ı' || c == 'İ')) || (k == 'S' && c == 'ſ')

/-- What follows the word `w`, in any case, at the start of a text. -/
def dropWord? : Text → Text → Option Text
  | [], s => some s
  | _ :: _, [] => none
  | k :: ks, c :: cs => if isFormOf k c then dropWord? ks cs else none

/-- What follows the words, with blanks between each two, at the start of a text. -/
def dropPhrase? : List Text → Text → Option Text
  | [], s => some s
  | [w], s => dropWord? w s
  | w :: ws, s => (dropWord? w s).bind fun r => (skipSomeBlanks? r).bind (dropPhrase? ws)

/-- Whether one of the phrases begins the text. -/
def beginsPhrase (phrases : List (List Text)) (s : Text) : Bool :=
  phrases.any fun p => (dropPhrase? p s).isSome

/-- Whether a test holds at some position of the text, its end included. -/
def somewhere (test : Text → Bool) : Text → Bool
  | [] => test []
  | c :: cs => test (c :: cs) || somewhere test cs

/-- Whether a test holds at some position of the text's first line, its end included. -/
def somewhereInLine (test : Text → Bool) : Text → Bool
  | [] => test []
  | c :: cs => test (c :: cs) || (c != '\n' && somewhereInLine test cs)

/-- The text before and after the first place where a word stands. -/
def cutAt? (word : Text) : Text → Option (Text × Text)
  | [] => (dropWord? word []).map ([], ·)
  | c :: cs =>
    match dropWord? word (c :: cs) with
    | some r => some ([], r)
    | none => (cutAt? word cs).map fun (before, r) => (c :: before, r)

end PinGate.Text
