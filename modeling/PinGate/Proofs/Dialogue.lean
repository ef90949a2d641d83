-- The laws of dialogues, whoever the partner is: what a dialogue says is said part by part, an
-- error ends it, and records change none of what is said.
import PinGate.Dialogue

namespace PinGate.Dialogue

variable {σ ε ε' α β : Type} {respond : Call → σ → Outcome × σ}

/-- A dialogue with a partner in one state makes these calls, in order, ends with this result, and
leaves the partner in another state. -/
structure Ends (respond : Call → σ → Outcome × σ) (d : Dialogue ε α) (s : σ) (calls : List Call)
    (result : Except ε α) (t : σ) : Prop where
  calls_eq : (d.run respond s).calls = calls
  result_eq : (d.run respond s).result = result
  partner_eq : (d.run respond s).partner = t

namespace Ends

variable {s t u : σ} {cs ds : List Call} {d : Dialogue ε α}

theorem done (r : Except ε α) (s : σ) : Ends respond (.done r) s [] r s := ⟨rfl, rfl, rfl⟩

theorem record (rs : List Record) (s : σ) :
    Ends respond (Dialogue.record (ε := ε) rs) s [] (.ok ()) s := by
  induction rs with
  | nil => exact done _ s
  | cons r rs ih => exact ⟨ih.calls_eq, ih.result_eq, ih.partner_eq⟩

/-! ## One part after the other -/

theorem andThen {f : Except ε α → Dialogue ε' β} {r : Except ε α} {r' : Except ε' β}
    (hd : Ends respond d s cs r t) (hf : Ends respond (f r) t ds r' u) :
    Ends respond (d.andThen f) s (cs ++ ds) r' u := by
  -- What the first dialogue says comes in front, one record or call after the other.
  induction d generalizing s cs with
  | done r₀ =>
    obtain ⟨rfl, rfl, rfl⟩ := hd
    exact hf
  | note n next ih =>
    have hnext := ih ⟨hd.calls_eq, hd.result_eq, hd.partner_eq⟩
    exact ⟨hnext.calls_eq, hnext.result_eq, hnext.partner_eq⟩
  | call c next ih =>
    obtain ⟨rfl, hr, ht⟩ := hd
    have hnext := ih (respond c s).1 ⟨rfl, hr, ht⟩
    exact ⟨congrArg (c :: ·) hnext.calls_eq, hnext.result_eq, hnext.partner_eq⟩

theorem bind_ok {f : α → Dialogue ε β} {a : α} {r : Except ε β}
    (hd : Ends respond d s cs (.ok a) t) (hf : Ends respond (f a) t ds r u) :
    Ends respond (d >>= f) s (cs ++ ds) r u :=
  hd.andThen hf

/-- An error ends the whole dialogue, and nothing more is said. -/
theorem bind_error {f : α → Dialogue ε β} {e : ε} (hd : Ends respond d s cs (.error e) t) :
    Ends respond (d >>= f) s cs (.error e) t := by
  rw [← List.append_nil cs]
  exact hd.andThen (done _ t)

/-- A result that another one takes the place of. -/
theorem discard {r : Except ε α} (b : β) (hd : Ends respond d s cs r t) :
    Ends respond (d >>= fun _ => pure b) s cs (r.map fun _ => b) t := by
  cases r with
  | ok a =>
    rw [← List.append_nil cs]
    exact hd.bind_ok (done _ t)
  | error e => exact hd.bind_error

/-- Records in front say nothing to the partner. -/
theorem behind_record {f : Unit → Dialogue ε β} {r : Except ε β} (rs : List Record)
    (hf : Ends respond (f ()) s cs r t) : Ends respond (Dialogue.record rs >>= f) s cs r t :=
  (record rs s).bind_ok hf

/-- What follows a call goes on with its answer. -/
theorem behind_ask {f : Outcome → Dialogue ε β} {r : Except ε β} {c : Call} {o : Outcome}
    (hc : respond c s = (o, t)) (hf : Ends respond (f o) t cs r u) :
    Ends respond (Dialogue.ask c >>= f) s (c :: cs) r u := by
  have hask : Ends respond (Dialogue.ask (ε := ε) c) s [c] (.ok (respond c s).1) (respond c s).2 :=
    ⟨rfl, rfl, rfl⟩
  rw [hc] at hask
  exact hask.bind_ok hf

/-- Records that are left out change nothing that is said. -/
theorem keeping {r : Except ε α} (level : Level) (hd : Ends respond d s cs r t) :
    Ends respond (d.keeping level) s cs r t := by
  induction d generalizing s cs with
  | done r₀ => exact hd
  | note n next ih =>
    have hnext := ih ⟨hd.calls_eq, hd.result_eq, hd.partner_eq⟩
    unfold Dialogue.keeping
    split
    · exact ⟨hnext.calls_eq, hnext.result_eq, hnext.partner_eq⟩
    · exact hnext
  | call c next ih =>
    obtain ⟨rfl, hr, ht⟩ := hd
    have hnext := ih (respond c s).1 ⟨rfl, hr, ht⟩
    exact ⟨congrArg (c :: ·) hnext.calls_eq, hnext.result_eq, hnext.partner_eq⟩

end Ends

/-! ## Scripts -/

namespace Script

/-- The answer of a script to the call behind `n` others. -/
def answer (script : Script) (n : Nat) : Outcome := script.getD n (.finished 0 [] [])

/-- The answers of a script to the first calls, `n` of them. -/
def answers (script : Script) (n : Nat) : List Outcome := (List.range n).map script.answer

theorem respond_eq (c : Call) (script : Script) :
    Script.respond c script = (script.answer 0, script.tail) := by
  cases script <;> rfl

@[simp]
theorem answer_tail (script : Script) (n : Nat) :
    answer script.tail n = script.answer (n + 1) := by
  cases script <;> rfl

end Script

end PinGate.Dialogue
