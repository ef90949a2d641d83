-- How the diff of the local repository is had: by one call, or by a second one when the first ends
-- badly. A call that does not come to an end is the last one, and then there is no diff; one that
-- breaks in another way is the last one, too, and fails.
import PinGate.LocalDiff
import PinGate.Proofs.Dialogue

namespace PinGate.LocalDiff

open Text Dialogue

/-! ## The courses of a fetch -/

section

variable (root base : Text)

/-- The call for the changes since the branch left the base. -/
def branchCall : Call := .gitDiff root (base ++ "...HEAD".toList)

/-- The call for the difference to the base itself. -/
def directCall : Call := .gitDiff root base

end

/-- Whether a call came to no end. -/
def IsCutOff (o : Outcome) : Prop := o = .timedOut ∨ o = .notFound

/-- What is made of the answer to the last call. -/
inductive Gives : Outcome → Except Failure Text → Prop
  | output {code : Int} {output errors : Text} : Gives (.finished code output errors) (.ok output)
  | nothing {o : Outcome} (h : IsCutOff o) : Gives o (.ok [])
  | error {told : Text} : Gives (.raised told) (.error (.call told))

namespace Gives

variable {o : Outcome} {r : Except Failure Text}

theorem eq_nil (h : Gives o r) (hcut : IsCutOff o) : r = .ok [] := by
  cases h with
  | nothing => rfl
  | output => rcases hcut with hcut | hcut <;> cases hcut
  | error => rcases hcut with hcut | hcut <;> cases hcut

theorem eq_output {code : Int} {output errors : Text} (h : Gives (.finished code output errors) r) :
    r = .ok output := by
  cases h with
  | output => rfl
  | nothing hcut => rcases hcut with hcut | hcut <;> cases hcut

theorem eq_error {told : Text} (h : Gives (.raised told) r) : r = .error (.call told) := by
  cases h with
  | nothing hcut => rcases hcut with hcut | hcut <;> cases hcut
  | error => rfl

end Gives

theorem exists_gives (o : Outcome) : ∃ r, Gives o r := by
  cases o with
  | finished code output errors => exact ⟨_, .output⟩
  | timedOut => exact ⟨_, .nothing (.inl rfl)⟩
  | notFound => exact ⟨_, .nothing (.inr rfl)⟩
  | raised told => exact ⟨_, .error⟩

/-- Whether a call ended with another exit code than zero. -/
def EndedBadly (o : Outcome) : Prop :=
  ∃ code output errors, o = .finished code output errors ∧ code ≠ 0

/-- The calls that are made for a diff, and what they come to, as the answers of the script decide
them. -/
inductive Course (root base : Text) (script : Script) : List Call → Except Failure Text → Prop where
  | branch {r : Except Failure Text} (hend : ¬ EndedBadly (script.answer 0))
    (h : Gives (script.answer 0) r) : Course root base script [branchCall root base] r
  | direct {r : Except Failure Text} (hbranch : EndedBadly (script.answer 0))
    (h : Gives (script.answer 1) r) :
    Course root base script [branchCall root base, directCall root base] r

/-! ## Every fetch takes one of these courses -/

variable {σ : Type} {respond : Call → σ → Outcome × σ} {root base : Text} {s t u : σ} {o : Outcome}
  {r : Except Failure Text}

theorem fetch_of_branch (h : respond (branchCall root base) s = (o, t)) (hend : ¬ EndedBadly o)
    (ho : Gives o r) : Ends respond (fetch root base) s [branchCall root base] r t := by
  refine Ends.behind_ask h ?_
  cases ho with
  | @output code output errors =>
    obtain rfl : code = 0 :=
      Decidable.byContradiction fun hcode => hend ⟨code, output, errors, rfl, hcode⟩
    exact Ends.done (.ok output) t
  | nothing hcut =>
    rcases hcut with rfl | rfl
    · exact Ends.behind_record _ (Ends.done (.ok []) t)
    · exact Ends.behind_record _ (Ends.done (.ok []) t)
  | error => exact Ends.done _ t

/-- When the first call ends badly, the second one decides. -/
theorem fetch_of_direct {o' : Outcome} (hbranch : respond (branchCall root base) s = (o, t))
    (hend : EndedBadly o) (hdirect : respond (directCall root base) t = (o', u)) (ho : Gives o' r) :
    Ends respond (fetch root base) s [branchCall root base, directCall root base] r u := by
  obtain ⟨code, output, errors, rfl, hcode⟩ := hend
  refine Ends.behind_ask hbranch ?_
  dsimp only
  rw [if_neg (by simpa using hcode)]
  refine Ends.behind_record _ (Ends.behind_ask hdirect ?_)
  cases ho with
  | output => exact Ends.done _ u
  | nothing hcut =>
    rcases hcut with rfl | rfl
    · exact Ends.behind_record _ (Ends.done (.ok []) u)
    · exact Ends.behind_record _ (Ends.done (.ok []) u)
  | error => exact Ends.done _ u

theorem fetch_takes_a_course (root base : Text) (script : Script) :
    ∃ calls r rest, Ends Script.respond (fetch root base) script calls r rest ∧
      Course root base script calls r := by
  have hfirst := Script.respond_eq (branchCall root base) script
  have hsecond := Script.respond_eq (directCall root base) script.tail
  rw [Script.answer_tail] at hsecond
  by_cases hend : EndedBadly (script.answer 0)
  · obtain ⟨r, hr⟩ := exists_gives (script.answer 1)
    exact ⟨_, r, _, fetch_of_direct hfirst hend hsecond hr, .direct hend hr⟩
  · obtain ⟨r, hr⟩ := exists_gives (script.answer 0)
    exact ⟨_, r, _, fetch_of_branch hfirst hend hr, .branch hend hr⟩

end PinGate.LocalDiff
