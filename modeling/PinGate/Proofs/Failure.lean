-- What is told of failures. A message names paths, lines, numbers and answers; it holds a line feed
-- only if something has one that is told as it is: what a program wrote about its error or a call
-- that broke said, the path of an event that is no JSON document, or the check of a record.
import PinGate.Proofs.Diff.Steps
import PinGate.Proofs.GitHub.Requests
import PinGate.Proofs.Json.Scalars
import PinGate.Proofs.Text.Parts
import PinGate.Validation

namespace PinGate

open Text

/-! ## Literals, numbers and quoted texts -/

namespace Text

/-- A literal is looked through as the list of its characters. -/
theorem not_mem_toList {l : String} {t : Text} (hl : String.ofList t = l) (h : '\n' ∉ t) :
    '\n' ∉ l.toList := by
  rw [← hl, String.toList_ofList]
  exact h

theorem not_mem_ofNat (n : Nat) : '\n' ∉ ofNat n := by
  intro h
  cases isDigit_of_mem_ofNat h

theorem not_mem_ofInt (n : Int) : '\n' ∉ ofInt n := by
  intro h
  rcases Json.mem_ofInt h with h | h <;> cases h

theorem not_mem_hex (width n : Nat) : '\n' ∉ hex width n := by
  induction width generalizing n with
  | zero => exact List.not_mem_nil
  | succ width ih =>
    have hdigit : ∀ m < 16, '\n' ≠ hexDigit m := by decide
    simp [hex, ih, hdigit _ (Nat.mod_lt n (by decide))]

theorem eq_of_lineFeed_eq {n : Nat} (h : '\n' = Char.ofNat n) : n = '\n'.toNat := by
  by_cases hn : n.isValidChar
  · have hchar : Char.ofNat n = Char.ofNatAux n hn := dif_pos hn
    rw [h, hchar]
    rfl
  · have hchar : Char.ofNat n = '\x00' := dif_neg hn
    rw [hchar] at h
    cases h

/-- The line feed has an escape, so its number is never written as the character. -/
theorem not_mem_quotePoint {q : Char} (hq : q ≠ '\n') (n : Nat) : '\n' ∉ quotePoint q n := by
  have hcode : ∀ width, '\n' ∉ hex width n := fun width => not_mem_hex width n
  unfold quotePoint
  split_ifs with hquote htab hfeed hreturn hprint hbyte hunit
  · have hn : n ≠ '\n'.toNat := by
      rintro rfl
      have hcode : '\n'.toNat = q.toNat := by simpa using hquote
      exact hq (Char.toNat_inj.1 hcode).symm
    simp [mt eq_of_lineFeed_eq hn]
  · decide
  · decide
  · decide
  · have hn : n ≠ '\n'.toNat := by simpa using hfeed
    simp [mt eq_of_lineFeed_eq hn]
  · simp [hcode]
  · simp [hcode]
  · simp [hcode]

theorem not_mem_quotedPoints (points : List Nat) : '\n' ∉ quotedPoints points := by
  have hq : quoteFor points ≠ '\n' := by
    unfold quoteFor
    split <;> decide
  unfold quotedPoints
  refine List.not_mem_append ?_ ?_
  · intro hmem
    rcases List.mem_cons.1 hmem with hfeed | hmem
    · exact hq hfeed.symm
    · obtain ⟨n, -, hn⟩ := List.mem_flatMap.1 hmem
      exact not_mem_quotePoint hq n hn
  · exact fun hmem => hq (List.mem_singleton.1 hmem).symm

theorem not_mem_quoted (s : Text) : '\n' ∉ quoted s := not_mem_quotedPoints _

theorem TooLong.not_mem_message (fault : TooLong) : '\n' ∉ fault.message := by
  refine List.not_mem_append (List.not_mem_append ?_ (not_mem_ofNat _)) ?_
  · exact not_mem_toList rfl (by decide)
  · exact not_mem_toList rfl (by decide)

end Text

/-! ## Settings and files -/

theorem Settings.Error.not_mem_message (e : Settings.Error) : '\n' ∉ e.message := by
  cases e with
  | noToken =>
    unfold message
    rw [String.toList_append]
    refine List.not_mem_append ?_ ?_
    · exact not_mem_toList rfl (by decide)
    · exact not_mem_toList rfl (by decide)
  | badTimeout value =>
    exact List.not_mem_append (not_mem_toList rfl (by decide)) (not_mem_quoted value)

theorem FileFault.not_mem_message (e : FileFault) : '\n' ∉ e.message := by
  cases e with
  | isDirectory path =>
    exact List.not_mem_append (not_mem_toList rfl (by decide)) (not_mem_quoted path)
  | nameTooLong path =>
    exact List.not_mem_append (not_mem_toList rfl (by decide)) (not_mem_quoted path)
  | unnameable => exact not_mem_toList rfl (by decide)
  | encoding fault =>
    have hplace : '\n' ∉ place fault := by
      have hposition : '\n' ∉ " in position ".toList := not_mem_toList rfl (by decide)
      have hbytes : '\n' ∉ "bytes in position ".toList := not_mem_toList rfl (by decide)
      unfold place
      split
      · exact List.not_mem_append (List.not_mem_append (List.not_mem_append (by decide)
          (not_mem_hex 2 _)) hposition) (not_mem_ofNat _)
      · refine List.not_mem_append (List.not_mem_append hbytes (not_mem_ofNat _)) ?_
        exact List.not_mem_cons_of_ne_of_not_mem (by decide) (not_mem_ofNat _)
    have hflaw : '\n' ∉ flawName fault.flaw := by
      cases fault.flaw <;> exact not_mem_toList rfl (by decide)
    refine List.not_mem_append (List.not_mem_append (List.not_mem_append ?_ hplace) ?_) hflaw
    · exact not_mem_toList rfl (by decide)
    · decide

theorem Json.Flaw.not_mem_tell (flaw : Json.Flaw) (place : Json.Place) :
    '\n' ∉ flaw.tell place := by
  have hname : '\n' ∉ flaw.name := by
    cases flaw <;> exact not_mem_toList rfl (by decide)
  have hline := List.not_mem_append hname (not_mem_toList (l := ": line ") rfl (by decide))
  have hcolumn : '\n' ∉ " column ".toList := not_mem_toList rfl (by decide)
  have hindex : '\n' ∉ " (char ".toList := not_mem_toList rfl (by decide)
  have hfront := List.not_mem_append (List.not_mem_append hline (not_mem_ofNat place.line)) hcolumn
  have hplace := List.not_mem_append hfront (not_mem_ofNat place.column)
  have hbefore := List.not_mem_append hplace hindex
  have htold := List.not_mem_append hbefore (not_mem_ofNat place.index)
  exact List.not_mem_append htold (by decide)

/-! ## Errors of a kind -/

/-- An error is of one kind, or a result of another. -/
inductive Within {ε α : Type} (P : ε → Prop) (Q : α → Prop) : Except ε α → Prop
  | ok {a : α} (h : Q a) : Within P Q (.ok a)
  | error {e : ε} (h : P e) : Within P Q (.error e)

namespace Within

variable {ε α β γ : Type} {P : ε → Prop} {Q : α → Prop} {R : β → Prop} {x : Except ε α}

theorem of_eq_error {e : ε} (hx : Within P Q x) (h : x = .error e) : P e := by
  cases hx with
  | ok => cases h
  | error he => exact Except.error.inj h ▸ he

theorem bind {f : α → Except ε β} (hx : Within P Q x) (hf : ∀ a, Q a → Within P R (f a)) :
    Within P R (x >>= f) := by
  cases hx with
  | ok ha => exact hf _ ha
  | error he => exact .error he

/-- What each step keeps, a whole run keeps. -/
theorem foldlM {f : α → γ → Except ε α} {cs : List γ} {a : α}
    (hstep : ∀ a, ∀ c ∈ cs, Q a → Within P Q (f a c)) (ha : Q a) : Within P Q (cs.foldlM f a) := by
  induction cs generalizing a with
  | nil => exact .ok ha
  | cons c cs ih =>
    rw [List.foldlM_cons]
    refine (hstep a c List.mem_cons_self ha).bind fun b hb => ih ?_ hb
    exact fun a d hd => hstep a d (List.mem_cons_of_mem c hd)

end Within

/-! ## Events -/

namespace Event

variable {path fallback : Option Text} {name : String} {v : Json.Value} {e : Error}

/-- Whether an error about an event tells nothing as it is but the path of the event. -/
def Error.IsTold (path : Option Text) : Error → Prop
  | .notJson p _ _ => path = some p
  | .numberMalformed quotedForm => ∃ points, quotedForm = quotedPoints points
  | _ => True

theorem within_member : Within (Error.IsTold path) (fun _ => True) (member name v) := by
  cases v with
  | object members => exact .ok trivial
  | _ => exact .error trivial

theorem within_memberOf : Within (Error.IsTold path) (fun _ => True) (memberOf name v) := by
  unfold memberOf
  split
  · exact within_member
  · exact .ok trivial

theorem within_numberOf (event : Json.Value) :
    Within (Error.IsTold path) (fun _ => True) (numberOf event) := by
  unfold numberOf
  refine within_member.bind fun number _ => ?_
  have hgiven (number : Json.Value) : Within (Error.IsTold path) (fun _ => True)
      (if number.isPresent then pure number else .error .noNumber) := by
    split
    · exact .ok trivial
    · exact .error trivial
  split
  · exact hgiven number
  · refine within_member.bind fun part _ => ?_
    exact within_memberOf.bind fun number _ => hgiven number

theorem within_repositoryOf (event : Json.Value) (fallback : Option Text) :
    Within (Error.IsTold path) (fun _ => True) (repositoryOf event fallback) := by
  unfold repositoryOf
  refine within_member.bind fun repository _ => ?_
  refine within_memberOf.bind fun part _ => ?_
  refine within_memberOf.bind fun owner _ => ?_
  refine within_memberOf.bind fun name _ => ?_
  split
  · exact .ok trivial
  · split
    · split
      · exact .error trivial
      · exact .ok trivial
    · exact .error trivial

theorem within_toNumber (v : Json.Value) :
    Within (Error.IsTold path) (fun _ => True) (toNumber v) := by
  unfold toNumber
  split
  case h_6 s =>
    split
    · exact .ok trivial
    · exact .error trivial
    · exact .error ⟨_, rfl⟩
  case h_7 points =>
    split
    · exact .error trivial
    · exact .error ⟨_, rfl⟩
  all_goals first | exact .ok trivial | exact .error trivial

theorem within_pullRequest (records : RecordCheck) (event : Json.Value) (fallback : Option Text) :
    Within (Error.IsTold path) (fun _ => True) (pullRequest records event fallback) := by
  unfold pullRequest
  refine (within_numberOf event).bind fun number _ => ?_
  refine (within_repositoryOf event fallback).bind fun ⟨owner, name⟩ _ => ?_
  refine (within_toNumber number).bind fun n _ => ?_
  cases h : records.pullRequest (PullRequest.record owner name n) with
  | ok pr => exact .ok trivial
  | error e => exact .error trivial

theorem within_document (w : Workspace) (path : Option Text) :
    Within (Error.IsTold path) (fun _ => True) (document w path) := by
  unfold document
  cases path with
  | none => exact .error trivial
  | some path =>
    dsimp only
    split
    · exact .error trivial
    cases w.lookUp path with
    | file content =>
      have htext : Within (Error.IsTold (some path)) (fun _ => True)
          ((ofBytes content).mapError fun fault => .unreadable (.encoding fault)) := by
        cases ofBytes content with
        | ok s => exact .ok trivial
        | error fault => exact .error trivial
      refine htext.bind fun s _ => ?_
      split
      · exact .ok trivial
      · exact .error rfl
      · exact .error trivial
    | _ => exact .error trivial

theorem isTold_of_load {records : RecordCheck} {w : Workspace}
    (h : load records w path fallback = .error e) : e.IsTold path :=
  ((within_document w path).bind fun event _ =>
    within_pullRequest records event fallback).of_eq_error h

theorem not_mem_kindName (kind : Json.Kind) : '\n' ∉ kindName kind := by
  cases kind <;> decide

theorem Error.not_mem_message (h : e.IsTold path)
    (hpath : ∀ p flaw place, e ≠ .notJson p flaw place) (hfields : ∀ r, e ≠ .fields r) :
    '\n' ∉ e.message := by
  cases e with
  | notJson p flaw place => exact absurd rfl (hpath p flaw place)
  | notFound path =>
    have hform : '\n' ∉ (path.map quoted).getD "None".toList := by
      cases path with
      | none => decide
      | some path => exact not_mem_quoted path
    refine List.not_mem_append (List.not_mem_append ?_ hform) ?_
    · exact not_mem_toList rfl (by decide)
    · exact not_mem_toList rfl (by decide)
  | unreadable fault => exact fault.not_mem_message
  | numberTooLong fault => exact fault.not_mem_message
  | noMembers kind =>
    refine List.not_mem_cons_of_ne_of_not_mem (by decide) ?_
    exact List.not_mem_append (not_mem_kindName kind) (not_mem_toList rfl (by decide))
  | noNumber => exact not_mem_toList rfl (by decide)
  | noRepository => exact not_mem_toList rfl (by decide)
  | numberMalformed quotedForm =>
    obtain ⟨points, rfl⟩ := h
    refine List.not_mem_append (not_mem_toList rfl (by decide)) fun hmem => ?_
    exact not_mem_quotedPoints points (List.mem_of_mem_take hmem)
  | numberKind kind =>
    refine List.not_mem_append (List.not_mem_append ?_ (not_mem_kindName kind)) (by decide)
    exact not_mem_toList rfl (by decide)
  | numberNaN => exact not_mem_toList rfl (by decide)
  | numberInfinite => exact not_mem_toList rfl (by decide)
  | fields r => exact absurd rfl (hfields r)

theorem Error.mem_message_notJson (p : Text) (flaw : Json.Flaw) (place : Json.Place) :
    '\n' ∈ (notJson p flaw place).message ↔ '\n' ∈ p := by
  have hfront : '\n' ∉ "Event payload at ".toList := not_mem_toList rfl (by decide)
  have hmiddle : '\n' ∉ " is not valid JSON: ".toList := not_mem_toList rfl (by decide)
  unfold message
  rw [List.mem_append, List.mem_append, List.mem_append]
  have htell := flaw.not_mem_tell place
  tauto

/-- A message about an event holds a line feed just when it tells one as it is: in the path, or in
what the check of a record says. -/
theorem Error.mem_message_iff (h : e.IsTold path) : '\n' ∈ e.message ↔
    (∃ p flaw place, e = .notJson p flaw place ∧ path = some p ∧ '\n' ∈ p) ∨
      ∃ r, e = .fields r ∧ '\n' ∈ r.told := by
  constructor
  · intro hfeed
    by_cases hpath : ∃ p flaw place, e = .notJson p flaw place
    · obtain ⟨p, flaw, place, rfl⟩ := hpath
      exact .inl ⟨p, flaw, place, rfl, h, (mem_message_notJson p flaw place).1 hfeed⟩
    by_cases hfields : ∃ r, e = .fields r
    · obtain ⟨r, rfl⟩ := hfields
      exact .inr ⟨r, rfl, hfeed⟩
    · refine absurd hfeed (not_mem_message h ?_ ?_)
      · rintro p flaw place rfl
        exact hpath ⟨p, flaw, place, rfl⟩
      · rintro r rfl
        exact hfields ⟨r, rfl⟩
  · rintro (⟨p, flaw, place, rfl, -, hfeed⟩ | ⟨r, rfl, hfeed⟩)
    · exact (mem_message_notJson p flaw place).2 hfeed
    · exact hfeed

end Event

/-! ## Diffs -/

namespace Diff

variable {s : State} {line : Text}

/-- Whether the file being read has a path on one line. -/
def State.IsNamed (s : State) : Prop := ∀ d ∈ s.draft, '\n' ∉ d.path

theorem afterLast?_subset {words rest : Text} (h : afterLast? words line = some rest) :
    rest ⊆ line := fun _ hc => (afterLast?_eq_some h).subset (List.mem_append_right words hc)

theorem pathOfStart_subset (line : Text) : pathOfStart line ⊆ line := by
  unfold pathOfStart
  cases h : afterLast? " b/".toList line with
  | none => exact List.nil_subset line
  | some rest => exact afterLast?_subset h

theorem pathBehind_subset (words line : Text) : pathBehind words line ⊆ line := by
  unfold pathBehind
  cases h : afterLast? words line with
  | none => exact List.Subset.refl line
  | some rest => exact afterLast?_subset h

theorem trim_subset (s : Text) : trim s ⊆ s := by
  intro c hc
  have hfront := (List.dropWhile_suffix _).subset (List.mem_reverse.1 hc)
  exact (List.dropWhile_suffix _).subset (List.mem_reverse.1 hfront)

theorem not_mem_pathOfTarget (h : '\n' ∉ line) : '\n' ∉ pathOfTarget line := by
  have htarget : '\n' ∉ trim ((line.drop 4).takeWhile (· != '\t')) := by
    intro hfeed
    have hdrop := (List.takeWhile_prefix _).subset (trim_subset _ hfeed)
    exact h (List.mem_of_mem_drop hdrop)
  unfold pathOfTarget
  dsimp only
  split
  · decide
  · split
    · exact fun hfeed => htarget (List.mem_of_mem_drop hfeed)
    · exact htarget

/-- Headers tell a path that is part of a line, or none. -/
theorem Draft.within_header {d : Draft} (hd : '\n' ∉ d.path) (h : '\n' ∉ line) :
    Within (fun e : Error => '\n' ∉ e.message) (fun r : Draft × Owed => '\n' ∉ r.1.path)
      (d.header line) := by
  have hnull : '\n' ∉ devNull := by decide
  unfold header
  split_ifs with hnew hdeleted hfrom hto hold htarget hhunk
  · exact .ok hd
  · exact .ok hnull
  · exact .ok hd
  · exact .ok fun hfeed => h (pathBehind_subset _ line hfeed)
  · exact .ok hd
  · exact .ok (not_mem_pathOfTarget h)
  · split
    · refine .error (List.not_mem_append (List.not_mem_append ?_ (by decide)) (not_mem_quoted line))
      exact List.not_mem_append (not_mem_toList rfl (by decide)) hd
    · next digits _ =>
      cases hspan : Span.ofDigits digits with
      | error fault => exact .error fault.not_mem_message
      | ok span => exact .ok hd
  · exact .ok hd

theorem State.within_header (hs : s.IsNamed) (h : '\n' ∉ line) :
    Within (fun e : Error => '\n' ∉ e.message) State.IsNamed (s.header line) := by
  unfold header
  split
  · refine .ok ?_
    rintro d ⟨⟩
    exact fun hfeed => h (pathOfStart_subset line hfeed)
  · cases hd : s.draft with
    | none =>
      refine .ok ?_
      simp [IsNamed]
    | some d =>
      refine (Draft.within_header (hs d hd) h).bind fun ⟨d', owed⟩ hd' => .ok ?_
      rintro _ ⟨⟩
      exact hd'

theorem State.within_step (hs : s.IsNamed) (h : '\n' ∉ line) :
    Within (fun e : Error => '\n' ∉ e.message) State.IsNamed (s.step line) := by
  rcases step_cases s line with ⟨-, -, hstep⟩ | ⟨kind, -, -, hstep⟩ | ⟨-, hstep⟩
  · rw [hstep]
    exact .ok hs
  · rw [hstep]
    refine .ok ?_
    intro d hd
    obtain ⟨d, hdraft, rfl⟩ := Option.map_eq_some_iff.1 hd
    exact hs d hdraft
  · rw [hstep]
    exact within_header hs h

/-- Every path in a diff is part of a line. -/
theorem Error.not_mem_message {diff : Text} {e : Error} (h : read diff = .error e) :
    '\n' ∉ e.message := by
  have hread : Within (fun e : Error => '\n' ∉ e.message) State.IsNamed
      ((linesOf diff).foldlM State.step State.start) := by
    refine Within.foldlM (fun s line hline hs => State.within_step hs ?_) ?_
    · exact not_mem_of_mem_linesOf hline
    · rintro d ⟨⟩
  exact (hread.bind (R := fun _ => True) fun s _ => .ok trivial).of_eq_error h

end Diff

end PinGate
