-- Which answer is to blame for the error of a check. Once the pull request is loaded, it is the
-- error of the diff or what one answer makes of a request; so its message holds a line feed if and
-- only if an answer to a call holds one in what it says about its error.
import PinGate.Proofs.CallProtocol
import PinGate.Proofs.Failure

namespace PinGate

open Text

/-! ## Requests to GitHub -/

/-- Whether an answer says more than one line about what went wrong: a program that failed wrote
them, or a call that broke in another way says them. -/
def Outcome.IsManyLined : Outcome → Prop
  | finished code _ errors => code ≠ 0 ∧ '\n' ∈ trim errors
  | raised told => '\n' ∈ told
  | _ => False

theorem Outcome.IsManyLined.output?_eq_none {o : Outcome} (h : o.IsManyLined) :
    o.output? = none := by
  cases o with
  | finished code output errors => exact if_neg h.1
  | timedOut => rfl
  | notFound => rfl
  | raised told => rfl

namespace GitHub

variable {client : Client} {o : Outcome}

theorem Request.not_mem_action (request : Request) : '\n' ∉ request.action := by
  unfold action
  split <;> exact not_mem_toList rfl (by decide)

theorem Error.mem_message_iff (request : Request) (detail : Text) :
    '\n' ∈ (Error.mk request.action detail).message ↔ '\n' ∈ detail := by
  have hwhat : '\n' ∉ "GitHub API call failed while trying to ".toList ++ request.action :=
    List.not_mem_append (not_mem_toList rfl (by decide)) request.not_mem_action
  have hcolon : '\n' ∉ ": ".toList := by decide
  unfold Error.message
  dsimp only
  split
  · next h =>
    rw [List.isEmpty_iff.1 h]
    exact iff_of_false hwhat List.not_mem_nil
  · rw [List.mem_append, List.mem_append]
    tauto

/-- Of what an answer tells about its error, only what the program wrote or the broken call says is
told as it is. -/
theorem Client.mem_message_failureOf (hbinary : '\n' ∉ client.binary) (request : Request)
    (ho : o.output? = none) : '\n' ∈ (client.failureOf request o).message ↔ o.IsManyLined := by
  have htold (detail : Text) : '\n' ∈ (Failure.gitHub ⟨request.action, detail⟩).message ↔
      '\n' ∈ detail := Error.mem_message_iff request detail
  cases o with
  | finished code output errors =>
    have hcode : code ≠ 0 := by
      rintro rfl
      cases ho
    have hexit : '\n' ∉ "exit code ".toList ++ ofInt code :=
      List.not_mem_append (by decide) (not_mem_ofInt code)
    have hmany : (Outcome.finished code output errors).IsManyLined ↔ '\n' ∈ trim errors :=
      and_iff_right hcode
    refine (htold _).trans (Iff.trans ?_ hmany.symm)
    split
    · next hempty =>
      rw [List.isEmpty_iff.1 hempty]
      exact iff_of_false hexit List.not_mem_nil
    · exact Iff.rfl
  | timedOut =>
    refine (htold _).trans (iff_of_false ?_ not_false)
    exact List.not_mem_append (List.not_mem_append (by decide) (not_mem_ofInt _)) (by decide)
  | notFound =>
    refine (htold _).trans (iff_of_false ?_ not_false)
    exact List.not_mem_append (List.not_mem_cons_of_ne_of_not_mem (by decide) hbinary) (by decide)
  | raised told => exact Iff.rfl

end GitHub

/-! ## Checks -/

namespace Validation

open Dialogue

namespace Course

variable {settings : Settings} {client : GitHub.Client} {pr : PullRequest} {script : Script}
  {cs : List Call} {f : Failure}

/-- A check fails with the error of its diff, or with what an answer makes of a request. -/
theorem fails_with (h : Course settings client pr script cs (.error f)) :
    (∃ diff e, Diff.read diff = .error e ∧ f = .diff e) ∨
      ∃ n < cs.length, (script.answer n).output? = none ∧
        ∃ request, f = client.failureOf request (script.answer n) := by
  cases h with
  | notFetched hdiff => exact .inr ⟨0, Nat.one_pos, hdiff, _, rfl⟩
  | unreadable hdiff hne hread => exact .inl ⟨_, _, hread, rfl⟩
  | notListed hdiff hlist => exact .inr ⟨1, Nat.lt_succ_self 1, hlist, _, rfl⟩
  | notWritten hdiff hlist hwrite => exact .inr ⟨2, Nat.lt_succ_self 2, hwrite, _, rfl⟩

/-- The message of a check that fails holds a line feed just when an answer says one. -/
theorem mem_message_iff (hbinary : '\n' ∉ client.binary)
    (h : Course settings client pr script cs (.error f)) :
    '\n' ∈ f.message ↔ ∃ n < cs.length, (script.answer n).IsManyLined := by
  constructor
  · intro hfeed
    rcases h.fails_with with ⟨diff, e, hread, rfl⟩ | ⟨n, hn, hnone, request, rfl⟩
    · exact absurd hfeed (Diff.Error.not_mem_message hread)
    · exact ⟨n, hn, (client.mem_message_failureOf hbinary request hnone).1 hfeed⟩
  · rintro ⟨n, hn, hmany⟩
    -- The answer is no good, so it is the one that ended the check.
    obtain ⟨-, request, hend⟩ := h.stops_with n hn hmany.output?_eq_none
    obtain rfl := Except.error.inj hend
    exact (client.mem_message_failureOf hbinary request hmany.output?_eq_none).2 hmany

end Course

end Validation

end PinGate
