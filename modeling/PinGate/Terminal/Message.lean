-- Messages as the terminal shows them. A message stands behind a sign on a line; the parts of it
-- that look like markup are shown as they are, and codes for emoji as pictures. What the terminal
-- cannot show is left out, and tabs lead to the next column that is a multiple of eight. A row has
-- no end here, so a message is never broken; that is how it is shown where rows are long enough.
import PinGate.Terminal.CellWidth
import PinGate.Terminal.Emoji

namespace PinGate.Terminal

open Text

/-! ## Markup -/

/-- Whether a bracket with this character behind it may start a piece of markup. -/
def opensMarkup (c : Char) : Bool := c.isLower || c == '#' || c == '/' || c == '@'

/-- The piece of markup that starts a text, up to its closing bracket, and what follows. It holds
no second opening bracket. -/
def readMarkup? : Text → Option (Text × Text)
  | '[' :: c :: r =>
    if opensMarkup c then
      match r.dropWhile fun d => d != '[' && d != ']' with
      | ']' :: rest => some ('[' :: c :: r.takeWhile (fun d => d != '[' && d != ']') ++ [']'], rest)
      | _ => none
    else none
  | _ => none

theorem length_of_readMarkup? {s piece r : Text} (h : readMarkup? s = some (piece, r)) :
    r.length < s.length := by
  unfold readMarkup? at h
  split at h
  · next c cs =>
    split at h
    · split at h
      · next rest hr =>
        have hle := length_dropWhile_le (fun d => d != '[' && d != ']') cs
        simp only [Option.some.injEq, Prod.mk.injEq] at h
        rw [hr, List.length_cons, h.2] at hle
        simp only [List.length_cons]
        omega
      · simp at h
    · simp at h
  · simp at h

/-- One more character in front of the first of some segments. -/
def consSegment (c : Char) : List Text → List Text
  | [] => [[c]]
  | s :: ss => (c :: s) :: ss

/-- A message cut into its pieces of markup and what stands between them. -/
def segments (s : Text) : List Text :=
  match _h : readMarkup? s with
  | some (piece, r) => [] :: piece :: segments r
  | none =>
    match s with
    | [] => []
    | c :: cs => consSegment c (segments cs)
termination_by s.length
decreasing_by
  · exact length_of_readMarkup? _h
  · exact Nat.lt_succ_self _

@[simp]
theorem segments_nil : segments [] = [] := by
  rw [segments]
  rfl

theorem segments_of_none {c : Char} {s : Text} (h : readMarkup? (c :: s) = none) :
    segments (c :: s) = consSegment c (segments s) := by
  rw [segments]
  split
  · next h' => cases h.symm.trans h'
  · rfl

/-- The message without the backslashes that stand before a bracket which starts no markup. -/
def dropEscapes : Text → Text
  | [] => []
  | '\\' :: '[' :: r =>
    if (readMarkup? ('[' :: r)).isSome then '\\' :: '[' :: dropEscapes r else '[' :: dropEscapes r
  | c :: r => c :: dropEscapes r

/-- A single backslash at the end is doubled. -/
def closeEscape (s : Text) : Text :=
  if endsWith ['\\'] s && !endsWith ['\\', '\\'] s then s ++ ['\\'] else s

/-! ## Controls and tabs -/

/-- The controls that are never shown. -/
def isHidden (c : Char) : Bool :=
  let n := c.toNat
  n == 7 || n == 8 || (11 ≤ n && n ≤ 13)

/-- How far the next stop is from the column `n`, which may be one. -/
def toStop (n : Nat) : Nat := (8 - n % 8) % 8

/-- The pieces of a line in one, from a column on. A tab between two of them is one blank, which
belongs to the piece before it, and as many more as lead to a stop. -/
def joinAtStops (column : Nat) : List Text → Text
  | [] => []
  | [piece] => piece
  | piece :: next :: more =>
    let piece := piece ++ [' ']
    let behind := column + width piece
    piece ++ List.replicate (toStop behind) ' ' ++
      joinAtStops (behind + toStop behind) (next :: more)

/-- A line with blanks for its tabs. -/
def expandTabs (line : Text) : Text := joinAtStops 0 (line.splitOn '\t')

/-- A text as it is shown at the start of a line. It goes on to the right for as long as it does. -/
def shown (s : Text) : Text :=
  unlines ((lines (s.filter fun c => !isHidden c)).map expandTabs)

/-- A message as it is shown: markup in it is no markup, and codes for emoji are pictures as long
as no markup parts them. -/
def plain (message : Text) : Text :=
  (segments (dropEscapes (closeEscape message))).flatMap Emoji.render

/-! ## Lines -/

/-- What a line says about a run. -/
inductive Sign where
  | success | failure | warning | information
  deriving Repr, DecidableEq

/-- The character of a sign. -/
def Sign.symbol : Sign → Char
  | success => '✓'
  | failure => '✗'
  | warning => '!'
  | information => 'i'

/-- A message behind a sign, in one row for each of its lines, however long. -/
def line (sign : Sign) (message : Text) : Text :=
  shown (sign.symbol :: ' ' :: plain message) ++ ['\n']

/-- A text with blanks before it up to a width. -/
def padLeft (n : Nat) (s : Text) : Text := List.replicate (n - s.length) ' ' ++ s

/-- One entry of a numbered list. -/
def item (number : Nat) (message : Text) : Text :=
  shown (' ' :: ' ' :: padLeft 3 (ofNat number) ++ '.' :: ' ' :: plain message) ++ ['\n']

/-! ## Words -/

/-- Whether a text is made of letters and blanks. -/
def IsWords (s : Text) : Prop := ∀ c ∈ s, c.isAlpha = true ∨ c = ' '

instance : DecidablePred IsWords := fun s =>
  List.decidableBAll (fun c : Char => c.isAlpha = true ∨ c = ' ') s

namespace IsWords

variable {s : Text}

theorem not_mem (h : IsWords s) {c : Char} (hc : ¬ (c.isAlpha = true ∨ c = ' ')) : c ∉ s :=
  fun hmem => hc (h c hmem)

theorem not_hidden (h : IsWords s) {c : Char} (hc : c ∈ s) : isHidden c = false := by
  have hcode : 32 ≤ c.toNat := by
    rcases h c hc with hletter | rfl
    · have hcase : c.isUpper = true ∨ c.isLower = true := Bool.or_eq_true_iff.1 hletter
      rcases hcase with hupper | hlower
      · have hle : 65 ≤ c.toNat := (of_decide_eq_true hupper).1
        exact Nat.le_trans (by decide) hle
      · have hle : 97 ≤ c.toNat := of_decide_eq_true (Bool.and_eq_true_iff.1 hlower).1
        exact Nat.le_trans (by decide) hle
    · decide
  have hbelow : ¬ c.toNat = 7 ∧ ¬ c.toNat = 8 ∧ ¬ c.toNat ≤ 13 := by omega
  simp [isHidden, hbelow]

end IsWords

theorem closeEscape_of_not_mem {s : Text} (h : '\\' ∉ s) : closeEscape s = s := by
  have hend : endsWith ['\\'] s = false := by
    rw [Bool.eq_false_iff]
    intro hend
    obtain ⟨t, rfl⟩ := List.isSuffixOf_iff_suffix.1 hend
    exact h (List.mem_append_right t List.mem_cons_self)
  simp [closeEscape, hend]

theorem dropEscapes_of_not_mem {s : Text} (h : '\\' ∉ s) : dropEscapes s = s := by
  induction s with
  | nil => rfl
  | cons c s ih =>
    obtain ⟨hc, hs⟩ := not_or.1 (mt List.mem_cons.2 h)
    rw [dropEscapes.eq_3 c s fun _ hescape => absurd hescape.symm hc, ih hs]

/-- Without a bracket a text is one segment. -/
theorem flatMap_segments {f : Text → Text} (hf : f [] = []) {s : Text} (h : '[' ∉ s) :
    (segments s).flatMap f = f s := by
  have hone : segments s = if s = [] then [] else [s] := by
    induction s with
    | nil => simp
    | cons c s ih =>
      obtain ⟨hc, hs⟩ := not_or.1 (mt List.mem_cons.2 h)
      have hnone : readMarkup? (c :: s) = none := by
        rw [readMarkup?]
        intro _ _ hbracket
        exact hc (List.cons.inj hbracket).1.symm
      rw [segments_of_none hnone, ih hs]
      cases s <;> rfl
  rw [hone]
  split
  · next hnil => rw [hnil, hf]; rfl
  · exact List.append_nil _

/-- Words are shown as they are. -/
theorem line_of_isWords {s : Text} (h : IsWords s) (sign : Sign) :
    line sign s = sign.symbol :: ' ' :: s ++ ['\n'] := by
  have hplain : plain s = s := by
    have hslash : '\\' ∉ s := h.not_mem (by decide)
    unfold plain
    rw [closeEscape_of_not_mem hslash, dropEscapes_of_not_mem hslash,
      flatMap_segments Emoji.render_nil (h.not_mem (by decide)),
      Emoji.render_of_not_mem (h.not_mem (by decide))]
  let row := sign.symbol :: ' ' :: s
  have hshown : ∀ c ∈ row, isHidden c = false := by
    intro c hc
    rcases List.mem_cons.1 hc with rfl | hc
    · cases sign <;> rfl
    rcases List.mem_cons.1 hc with rfl | hc
    · rfl
    · exact h.not_hidden hc
  have hrow : ∀ w, ¬ (w.isAlpha = true ∨ w = ' ') → (∀ sign : Sign, w ≠ sign.symbol) → w ∉ row := by
    intro w hw hsign hmem
    rcases List.mem_cons.1 hmem with hmem | hmem
    · exact hsign sign hmem
    rcases List.mem_cons.1 hmem with hmem | hmem
    · exact hw (.inr hmem)
    · exact h.not_mem hw hmem
  have hfilter : row.filter (fun c => !isHidden c) = row :=
    List.filter_eq_self.2 fun c hc => by rw [hshown c hc]; rfl
  have hfeed : '\n' ∉ row := hrow _ (by decide) fun sign => by cases sign <;> decide
  have htab : '\t' ∉ row := hrow _ (by decide) fun sign => by cases sign <;> decide
  unfold line shown lines
  rw [hplain, hfilter, List.splitOn_eq_singleton hfeed, List.map_singleton, expandTabs,
    List.splitOn_eq_singleton htab]
  simp [joinAtStops, unlines, row]

end PinGate.Terminal
