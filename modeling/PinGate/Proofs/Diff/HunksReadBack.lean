-- Written hunks are read back. What a hunk is owed is always what the rest of its body holds, so no
-- line of a body is ever looked at as a header, whatever it says.
import PinGate.Proofs.Diff.Steps
import PinGate.Proofs.Diff.Written
import PinGate.Proofs.Text.Numbers

namespace PinGate.Diff.Written

open Text

/-! ## The header of a hunk -/

/-- Text that cannot go on with a range: its first character is no digit and no comma. -/
def EndsRange (r : Text) : Prop := ∀ c, r.head? = some c → isDecimalDigit c = false ∧ c ≠ ','

theorem readRange?_text (r : Range) {rest : Text} (hr : EndsRange rest) :
    readRange? (r.text ++ rest) =
      some ((ofNat r.start, if r.isShort then none else some (ofNat r.count)), rest) := by
  have hdigit : ∀ c, rest.head? = some c → isDecimalDigit c = false := fun c hc => (hr c hc).1
  unfold readRange? Range.text
  cases hs : r.isShort with
  | true =>
    have hcomma : dropPrefix? [','] rest = none := by
      cases rest with
      | nil => rfl
      | cons c cs => simp [dropPrefix?, Ne.symm (hr c rfl).2]
    simp [run?_ofNat r.start hdigit, hcomma]
  | false =>
    have hstart : ∀ c, (',' :: (ofNat r.count ++ rest)).head? = some c →
        isDecimalDigit c = false := by
      intro c hc
      obtain rfl : ',' = c := by simpa using hc
      decide
    have hcount := run?_ofNat r.count hdigit
    simp [run?_ofNat r.start hstart, dropPrefix?, hcount]

/-- The digits that a hunk's header holds. -/
def Hunk.digits (h : Hunk) : SpanDigits :=
  ⟨ofNat h.old.start, if h.old.isShort then none else some (ofNat h.old.count),
    ofNat h.new.start, if h.new.isShort then none else some (ofNat h.new.count)⟩

theorem read?_spanText (h : Hunk) (heading : Text) :
    SpanDigits.read? (h.spanText ++ heading) = some h.digits := by
  have hspace : ∀ p r : Text, p.head? = some ' ' → EndsRange (p ++ r) := by
    intro p r hp c hc
    obtain rfl : ' ' = c := by simpa [List.head?_append, hp] using hc
    exact ⟨by decide, by decide⟩
  have hcut : ∀ p r : Text, dropPrefix? p (p ++ r) = some r := fun p r =>
    dropPrefix?_eq_some_iff.2 rfl
  unfold SpanDigits.read? Hunk.spanText
  simp only [List.append_assoc, hcut, Option.bind_eq_bind, Option.bind_some]
  rw [readRange?_text h.old (hspace _ _ rfl)]
  simp only [hcut, Option.bind_some]
  rw [readRange?_text h.new (hspace _ _ rfl)]
  simp only [hcut, Option.bind_some]
  rfl

theorem ofDigits_digits (h : Hunk) : Span.ofDigits h.digits = .ok h.hunk.span := by
  have hcount : ∀ r : Range, numberOrOne (if r.isShort then none else some (ofNat r.count)) =
      .ok r.count := by
    intro r
    cases hs : r.isShort with
    | true => simp [numberOrOne, r.short_one hs]
    | false => exact ofDigits_ofNat r.count_fits
  unfold Span.ofDigits Hunk.digits
  simp only [ofDigits_ofNat h.old.start_fits, ofDigits_ofNat h.new.start_fits, hcount]
  rfl

/-- In a file the header opens the hunk, in whatever state it is met and whatever follows the
ranges. -/
theorem step_spanText (h : Hunk) (heading : Text) (s : State) :
    s.step (h.spanText ++ heading) =
      match s.draft with
      | none => .ok { s with owed := .nothing }
      | some d =>
        .ok { s with
          draft := some (d.openHunk h.hunk.span), owed := ⟨h.old.count, h.new.count⟩ } := by
  obtain ⟨r, hr⟩ : ∃ r, h.spanText ++ heading = '@' :: '@' :: r := ⟨_, rfl⟩
  have hread : SpanDigits.read? ('@' :: '@' :: r) = some h.digits := hr ▸ read?_spanText h heading
  rw [hr, State.step_of_header fun _ => ⟨rfl, rfl⟩]
  cases hd : s.draft with
  | none => simp [State.header, hd, startsWith, List.isPrefixOf]
  | some d =>
    have hdraft : d.header ('@' :: '@' :: r) =
        .ok (d.openHunk h.hunk.span, ⟨h.old.count, h.new.count⟩) := by
      simp only [Draft.header, startsWith, hread, ofDigits_digits]
      rfl
    simp only [State.header, startsWith, hd, hdraft]
    rfl

/-! ## The body of a hunk -/

/-- What a body is owed: its lines on either side. -/
def owedFor (body : List Entry) : Owed :=
  ⟨body.countP (·.line.isOld), body.countP (·.line.isNew)⟩

theorem ofLine?_line (b : BodyLine) : LineKind.ofLine? b.line.text = some b.line.kind := by
  cases b <;> rfl

theorem owedFor_cons_isOpen (e : Entry) (body : List Entry) :
    (owedFor (e :: body)).isOpen = true := by
  cases h : e.line <;> simp [owedFor, Owed.isOpen, h, BodyLine.isOld, BodyLine.isNew]

theorem owedFor_cons_after (e : Entry) (body : List Entry) :
    (owedFor (e :: body)).after e.line.line.kind = owedFor body := by
  cases h : e.line <;>
    simp [owedFor, Owed.after, h, BodyLine.isOld, BodyLine.isNew, BodyLine.line]

/-- A remark changes nothing, in a body and right behind one. -/
theorem step_remark {s : State} {d : Draft} (hd : s.draft = some d)
    (ho : s.owed.isOpen = true ∨ s.owed = .nothing) : s.step remark = .ok s := by
  obtain ⟨files, draft, owed⟩ := s
  obtain rfl : draft = some d := hd
  rcases ho with ho | ho
  · exact State.step_of_remark ho rfl
  · obtain rfl : owed = .nothing := ho
    rfl

theorem foldlM_remarks {s : State} {d : Draft} (hd : s.draft = some d)
    (ho : s.owed.isOpen = true ∨ s.owed = .nothing) (n : Nat) :
    (List.replicate n remark).foldlM State.step s = .ok s := by
  induction n with
  | zero => rfl
  | succ n ih =>
    rw [List.replicate_succ, State.foldlM_cons_of_ok (step_remark hd ho)]
    exact ih

theorem owedFor_isOpen_or_nothing (body : List Entry) :
    (owedFor body).isOpen = true ∨ owedFor body = .nothing := by
  cases body with
  | nil => exact .inr rfl
  | cons e body => exact .inl (owedFor_cons_isOpen e body)

/-- A hunk that is owed just its body takes every line of it, and is owed nothing then. -/
theorem foldlM_body (files : Array ChangedFile) (d : Draft) (body : List Entry) :
    (body.flatMap Entry.texts).foldlM State.step ⟨files, some d, owedFor body⟩ =
      .ok ⟨files, some ((body.map (·.line.line)).foldl Draft.addLine d), .nothing⟩ := by
  -- That the hunk is owed just what is left of the body is the invariant: it makes the next line a
  -- line of the hunk, whatever it says, and holds again behind it.
  induction body generalizing d with
  | nil => rfl
  | cons e body ih =>
    have hline : State.step ⟨files, some d, owedFor (e :: body)⟩ e.line.line.text =
        .ok ⟨files, some (d.addLine e.line.line), owedFor body⟩ := by
      rw [State.step_of_kind (owedFor_cons_isOpen e body) (ofLine?_line e.line),
        owedFor_cons_after e body]
      rfl
    have hremarks := foldlM_remarks (s := ⟨files, some (d.addLine e.line.line), owedFor body⟩) rfl
      (owedFor_isOpen_or_nothing body) e.remarks
    rw [List.flatMap_cons, Entry.texts, List.cons_append, State.foldlM_cons_of_ok hline,
      State.foldlM_append_of_ok hremarks]
    exact ih (d.addLine e.line.line)

/-! ## Hunks -/

theorem foldl_addLine {d : Draft} {span : Span} {ls : Array Line} (hd : d.last = some (span, ls))
    (ms : List Line) :
    ms.foldl Draft.addLine d = { d with last := some (span, ls ++ ms.toArray) } := by
  induction ms generalizing d ls with
  | nil => simp [← hd]
  | cons m ms ih =>
    have hm : (d.addLine m).last = some (span, ls.push m) := by simp [Draft.addLine, hd]
    rw [List.foldl_cons, ih hm]
    simp [Draft.addLine]

theorem toFile_foldl_addLine (d : Draft) (h : Diff.Hunk) :
    (h.lines.foldl Draft.addLine (d.openHunk h.span)).toFile =
      { d.toFile with hunks := d.toFile.hunks ++ [h] } := by
  rw [foldl_addLine (d := d.openHunk h.span) rfl]
  simp [Draft.toFile, Draft.lastHunk, Draft.openHunk]

/-- A hunk of a file is read into that file, behind the hunks before it. -/
theorem foldlM_hunk (files : Array ChangedFile) (d : Draft) (h : Hunk) :
    ∃ d', h.lines.foldlM State.step ⟨files, some d, .nothing⟩ = .ok ⟨files, some d', .nothing⟩ ∧
      d'.toFile = { d.toFile with hunks := d.toFile.hunks ++ [h.hunk] } := by
  refine ⟨_, ?_, toFile_foldl_addLine d h.hunk⟩
  have howed : (⟨h.old.count, h.new.count⟩ : Owed) = owedFor h.body := by
    rw [owedFor, h.old_count, h.new_count]
  have hspan : State.step ⟨files, some d, .nothing⟩ (h.spanText ++ h.heading) =
      .ok ⟨files, some (d.openHunk h.hunk.span), owedFor h.body⟩ := by
    rw [step_spanText, howed]
  rw [Hunk.lines, State.foldlM_cons_of_ok hspan]
  exact foldlM_body files _ h.body

theorem foldlM_hunks (files : Array ChangedFile) (d : Draft) (hs : List Hunk) :
    ∃ d', (hs.flatMap Hunk.lines).foldlM State.step ⟨files, some d, .nothing⟩ =
        .ok ⟨files, some d', .nothing⟩ ∧
      d'.toFile = { d.toFile with hunks := d.toFile.hunks ++ hs.map Hunk.hunk } := by
  induction hs generalizing d with
  | nil => exact ⟨d, rfl, by simp⟩
  | cons h hs ih =>
    obtain ⟨d₁, hrun, hfile⟩ := foldlM_hunk files d h
    obtain ⟨d₂, hruns, hfiles⟩ := ih d₁
    refine ⟨d₂, ?_, ?_⟩
    · rw [List.flatMap_cons, State.foldlM_append_of_ok hrun]
      exact hruns
    · rw [hfiles, hfile]
      simp

end PinGate.Diff.Written
