-- What is written is read back: values made of strings, whole numbers, arrays and objects, at any
-- depth. Arrays and objects are written in the same way, as rows of parts, and read in the same way,
-- one part after the other; so one law about rows serves both.
import PinGate.Proofs.Json.Scalars

namespace PinGate.Json

open Text Terminal

/-! ## Values -/

/-- The blanks of the format. -/
def spaceChars : List Char := [' ', '\t', '\n', '\r']

def IsSpace (s : Text) : Prop := ∀ c ∈ s, c ∈ spaceChars

/-- Whether a value is written so that it is read back at any depth, behind any blanks and in front
of anything that ends a number, and without what raw output may change. -/
structure IsFaithful (v : Value) : Prop where
  reads : ∀ depth space r, IsSpace space → EndsNumber r →
    Reads (space ++ (writeValue depth v ++ r)) v r
  plain : ∀ depth, IsPlain (writeValue depth v)

theorem skipSpace_append {space : Text} (h : IsSpace space) (s : Text) :
    skipSpace (space ++ s) = skipSpace s := by
  unfold skipSpace
  rw [List.dropWhile_append_of_pos]
  intro c hc
  simpa [spaceChars, or_assoc] using h c hc

theorem skipSpace_cons {c : Char} (h : c ∉ spaceChars) (s : Text) :
    skipSpace (c :: s) = c :: s := by
  simp only [spaceChars, List.mem_cons, List.not_mem_nil, or_false, not_or] at h
  unfold skipSpace
  rw [List.dropWhile_cons_of_neg (by simp [h])]

/-- What stands behind blanks is the first thing to be read. -/
theorem skipSpace_append_cons {space : Text} {c : Char} (hspace : IsSpace space)
    (hc : c ∉ spaceChars) (s : Text) : skipSpace (space ++ c :: s) = c :: s := by
  rw [skipSpace_append hspace, skipSpace_cons hc]

theorem isSpace_newLine (depth : Nat) : IsSpace (newLine depth) := by
  intro c hc
  rcases List.mem_cons.1 hc with rfl | hc
  · decide
  · rw [List.eq_of_mem_replicate hc]
    decide

theorem isPlain_newLine (depth : Nat) : IsPlain (newLine depth) := by
  intro c hc
  rcases List.mem_cons.1 hc with rfl | hc
  · decide
  · rw [List.eq_of_mem_replicate hc]
    decide

/-! ## Scalars -/

theorem reads_of_scalar {space s r : Text} {c : Char} {v : Value} (hspace : IsSpace space)
    (hc : c ∉ spaceChars) (h : readScalar? (c :: s) = some (v, r)) :
    Reads (space ++ c :: s) v r := by
  refine .scalar ?_
  rw [skipSpace_append_cons hspace hc, h]

theorem isFaithful_string (t : Text) : IsFaithful (.string t) where
  reads _ _ r hspace _ := reads_of_scalar hspace (by decide) (readScalar?_writeString t r)
  plain _ := isPlain_writeString t

theorem not_mem_spaceChars_of_mem_ofInt {n : Int} {c : Char} (h : c ∈ ofInt n) :
    c ∉ spaceChars := by
  rcases mem_ofInt h with rfl | hdigit
  · decide
  · simp only [spaceChars, List.mem_cons, List.not_mem_nil, or_false]
    rintro (rfl | rfl | rfl | rfl) <;> cases hdigit

theorem isFaithful_int (n : Int) : IsFaithful (.int n) where
  reads _ _ r hspace hr := by
    obtain ⟨c, t, hct⟩ := List.exists_cons_of_ne_nil (ofInt_ne_nil n)
    have hc : c ∉ spaceChars := not_mem_spaceChars_of_mem_ofInt (hct ▸ List.mem_cons_self)
    have hread := readScalar?_ofInt n hr
    rw [hct] at hread
    rw [writeValue, hct]
    exact reads_of_scalar hspace hc hread
  plain _ := isPlain_ofInt n

/-! ## Rows -/

theorem endsNumber_newLine (depth : Nat) (s : Text) : EndsNumber (newLine depth ++ s) := by
  rintro c ⟨⟩
  decide

/-- Parts with commas between them, each on its own line, and an end. -/
def row (depth : Nat) (parts : List Text) (tail : Text) : Text :=
  newLine depth ++ ((',' :: newLine depth).intercalate parts ++ tail)

theorem row_singleton (depth : Nat) (p tail : Text) :
    row depth [p] tail = newLine depth ++ (p ++ tail) := by
  simp [row]

theorem row_cons (depth : Nat) (p q : Text) (ps : List Text) (tail : Text) :
    row depth (p :: q :: ps) tail = newLine depth ++ (p ++ ',' :: row depth (q :: ps) tail) := by
  simp [row, List.intercalate_cons_cons]

theorem bracketed_append (opening closing : Char) (depth : Nat) {parts : List Text}
    (h : parts ≠ []) (r : Text) : bracketed opening closing depth parts ++ r =
      opening :: row (depth + 1) parts (newLine depth ++ closing :: r) := by
  simp [bracketed, row, h]

theorem writeItems_eq_map (depth : Nat) (vs : List Value) :
    writeItems depth vs = vs.map (writeValue depth) := by
  induction vs with
  | nil => rfl
  | cons v vs ih => rw [writeItems, ih, List.map_cons]

def writeMember (depth : Nat) (m : Text × Value) : Text :=
  writeString m.1 ++ ':' :: ' ' :: writeValue depth m.2

theorem writeMembers_eq_map (depth : Nat) (ms : List (Text × Value)) :
    writeMembers depth ms = ms.map (writeMember depth) := by
  induction ms with
  | nil => rfl
  | cons m ms ih => rw [writeMembers, ih, List.map_cons, writeMember]

section

variable {α : Type} {One : Text → α → Text → Prop} {All : Text → List α → Text → Prop}
  {closing : Char} (last : ∀ {s t r : Text} {a : α}, One s a t → skipSpace t = closing :: r →
    All s [a] r)
  (more : ∀ {s t u r : Text} {a : α} {as : List α}, One s a t → skipSpace t = ',' :: u →
    All u as r → All s (a :: as) r)

include last more

/-- A row of parts is read when its parts are, each on a line of its own. -/
theorem all_of_row {write : α → Text} {depth : Nat} {tail r : Text} {a : α} {as : List α}
    (hone : ∀ b ∈ a :: as, ∀ u, EndsNumber u → One (newLine depth ++ (write b ++ u)) b u)
    (htail : EndsNumber tail) (hclose : skipSpace tail = closing :: r) :
    All (row depth ((a :: as).map write) tail) (a :: as) r := by
  induction as generalizing a with
  | nil =>
    rw [List.map_singleton, row_singleton]
    exact last (hone a (by simp) tail htail) hclose
  | cons b as ih =>
    rw [List.map_cons, List.map_cons, row_cons]
    refine more (hone a (by simp) _ ?_) (skipSpace_cons (by decide) _) ?_
    · rintro c ⟨⟩
      decide
    · exact ih fun b' hb' => hone b' (List.mem_cons_of_mem a hb')

end

theorem isPlain_intercalate {sep : Text} {parts : List Text} (hsep : IsPlain sep)
    (hparts : ∀ p ∈ parts, IsPlain p) : IsPlain (sep.intercalate parts) := by
  induction parts with
  | nil => simp [List.intercalate, IsPlain]
  | cons p ps ih =>
    cases ps with
    | nil => simpa using hparts p (by simp)
    | cons q qs =>
      rw [List.intercalate_cons_cons]
      exact isPlain_append (isPlain_append (hparts p (by simp)) hsep)
        (ih fun p' hp' => hparts p' (List.mem_cons_of_mem p hp'))

theorem isPlain_bracketed {opening closing : Char} (hopen : IsPlain [opening])
    (hclose : IsPlain [closing]) (depth : Nat) {parts : List Text}
    (hparts : ∀ p ∈ parts, IsPlain p) : IsPlain (bracketed opening closing depth parts) := by
  have hline := isPlain_newLine
  have hsep : IsPlain (',' :: newLine (depth + 1)) :=
    isPlain_append (a := [',']) (by decide) (hline _)
  have hrow := isPlain_intercalate hsep hparts
  unfold bracketed
  split
  · exact isPlain_append hopen hclose
  · have hfront := isPlain_append (isPlain_append hopen (hline (depth + 1))) hrow
    exact isPlain_append (isPlain_append hfront (hline _)) hclose

/-! ## Arrays and objects -/

theorem isFaithful_array {vs : List Value} (h : ∀ v ∈ vs, IsFaithful v) :
    IsFaithful (.array vs) where
  reads depth space r hspace hr := by
    rw [writeValue, writeItems_eq_map]
    cases vs with
    | nil =>
      exact .emptyArray (skipSpace_append_cons hspace (by decide) _)
        (skipSpace_cons (by decide) r)
    | cons v vs =>
      rw [bracketed_append _ _ _ (by simp)]
      refine .array (skipSpace_append_cons hspace (by decide) _) ?_
      refine all_of_row .last .more ?_ (endsNumber_newLine _ _)
        (skipSpace_append_cons (isSpace_newLine depth) (by decide) r)
      intro w hw u hu
      exact (h w hw).reads (depth + 1) _ u (isSpace_newLine _) hu
  plain depth := by
    rw [writeValue, writeItems_eq_map]
    refine isPlain_bracketed (by decide) (by decide) depth ?_
    simp only [List.mem_map]
    rintro p ⟨v, hv, rfl⟩
    exact (h v hv).plain _

theorem writeMember_append (depth : Nat) (name : Text) (v : Value) (r : Text) :
    writeMember depth (name, v) ++ r =
      '"' :: (name.flatMap writeChar ++ '"' :: ':' :: ([' '] ++ (writeValue depth v ++ r))) := by
  simp [writeMember, writeString]

theorem readsMember_writeMember {depth : Nat} {m : Text × Value} (h : IsFaithful m.2)
    {space r : Text} (hspace : IsSpace space) (hr : EndsNumber r) :
    ReadsMember (space ++ (writeMember depth m ++ r)) m r := by
  obtain ⟨name, v⟩ := m
  have hread := ReadsMember.mk (skipSpace_append_cons hspace (by decide) _)
    (readString?_append name _) (by simp [isSurrogate_toNat]) (skipSpace_cons (by decide) _)
    (h.reads depth [' '] r (by simp [IsSpace, spaceChars]) hr)
  rw [textOf_map_toNat] at hread
  rw [writeMember_append]
  exact hread

theorem isFaithful_object {ms : List (Text × Value)} (h : ∀ m ∈ ms, IsFaithful m.2) :
    IsFaithful (.object ms) where
  reads depth space r hspace hr := by
    rw [writeValue, writeMembers_eq_map]
    cases ms with
    | nil =>
      exact .emptyObject (skipSpace_append_cons hspace (by decide) _)
        (skipSpace_cons (by decide) r)
    | cons m ms =>
      rw [bracketed_append _ _ _ (by simp)]
      refine .object (skipSpace_append_cons hspace (by decide) _) ?_
      refine all_of_row .last .more ?_ (endsNumber_newLine _ _)
        (skipSpace_append_cons (isSpace_newLine depth) (by decide) r)
      intro m' hm u hu
      exact readsMember_writeMember (h m' hm) (isSpace_newLine _) hu
  plain depth := by
    rw [writeValue, writeMembers_eq_map]
    refine isPlain_bracketed (by decide) (by decide) depth ?_
    simp only [List.mem_map]
    rintro p ⟨m, hm, rfl⟩
    have hvalue := isPlain_append (a := [':', ' ']) (by decide) ((h m hm).plain (depth + 1))
    exact isPlain_append (isPlain_writeString m.1) hvalue

/-! ## Documents -/

/-- A document that is written decodes to its value and to no other. -/
theorem decodes_write_iff {v v' : Value} (h : IsFaithful v) : Decodes (write v) v' ↔ v' = v := by
  have hdecodes : Decodes (write v) v := by
    refine ⟨[], ?_, rfl⟩
    have := h.reads 0 [] [] (by simp [IsSpace]) (by simp [EndsNumber])
    simpa [write] using this
  constructor
  · intro h'
    exact hdecodes.unique h'
  · rintro rfl
    exact hdecodes

end PinGate.Json
