-- Work that goes on in exchange with other programs. A dialogue makes a call, waits for its
-- outcome and goes on with that, keeps records on the way, and ends with a result or an error.
-- What the other side answers is no part of a dialogue; running it against a partner that has a
-- state of its own gives the result together with everything that was said.
import PinGate.GitHub.Basic
import PinGate.Journal

namespace PinGate

/-! ## Calls and outcomes -/

/-- A call of another program. -/
inductive Call where
  /-- A request to GitHub about a pull request. -/
  | gitHub (client : GitHub.Client) (pr : PullRequest) (request : GitHub.Request)
  /-- A diff of the local repository in a directory against something. -/
  | gitDiff (root target : Text)
  deriving Repr, DecidableEq

namespace Call

/-- The program and its arguments. -/
def arguments : Call → List Text
  | gitHub client pr request => client.binary :: "api".toList :: request.arguments pr
  | gitDiff _ target => ["git".toList, "diff".toList, target]

/-- The directory that the program is started in, named from that of the run, if it is another. -/
def directory : Call → Option Text
  | gitHub _ _ _ => none
  | gitDiff root _ => some root

/-- The seconds that the call may take. -/
def timeout : Call → Int
  | gitHub client _ _ => client.timeout
  | gitDiff _ _ => 30

/-- The token that the program gets. -/
def token : Call → Option Text
  | gitHub client _ _ => some client.token
  | gitDiff _ _ => none

end Call

/-- How a call ends. -/
inductive Outcome where
  /-- The program ended with an exit code and two outputs. They are given as they are read: as text
  in which every line ends with a line feed, whatever ended it in the program. -/
  | finished (code : Int) (output errors : Text)
  | timedOut
  /-- There is no such program. -/
  | notFound
  /-- The call broke in another way, and the error says this: the program may not be started, or not
  in that directory or with those arguments or that long, or what it wrote is no text. -/
  | raised (told : Text)
  deriving Repr, DecidableEq

/-! ## Dialogues -/

/-- Work with calls and records that ends with an `α` or fails with an `ε`. -/
inductive Dialogue (ε α : Type) where
  | done (result : Except ε α)
  | note (r : Record) (next : Dialogue ε α)
  | call (c : Call) (next : Outcome → Dialogue ε α)

namespace Dialogue

variable {ε ε' α β : Type}

/-- Going on with the result, an error included. -/
def andThen (d : Dialogue ε α) (f : Except ε α → Dialogue ε' β) : Dialogue ε' β :=
  match d with
  | done r => f r
  | note r next => note r (next.andThen f)
  | call c next => call c fun o => (next o).andThen f

/-- Going on with the result unless there was an error. -/
def bind (d : Dialogue ε α) (f : α → Dialogue ε β) : Dialogue ε β :=
  d.andThen fun
    | .ok a => f a
    | .error e => done (.error e)

instance : Monad (Dialogue ε) where
  pure a := done (.ok a)
  bind := bind

/-- A result that is at hand. -/
def ofExcept (r : Except ε α) : Dialogue ε α := done r

/-- Failing. -/
def fail (e : ε) : Dialogue ε α := done (.error e)

/-- Making one call. -/
def ask (c : Call) : Dialogue ε Outcome := call c fun o => done (.ok o)

/-- Keeping some records. -/
def record : List Record → Dialogue ε Unit
  | [] => done (.ok ())
  | r :: rs => note r (record rs)

/-- The dialogue without the records that do not reach a level. -/
def keeping (level : Level) : Dialogue ε α → Dialogue ε α
  | done r => done r
  | note r next => if r.reaches level then note r (next.keeping level) else next.keeping level
  | call c next => call c fun o => (next o).keeping level

/-! ## Running -/

/-- What came of a dialogue: its result, the calls and the records in order, and the state that
the partner is left in. -/
structure Transcript (σ ε α : Type) where
  result : Except ε α
  calls : List Call
  notes : List Record
  partner : σ

/-- The dialogue with a partner that answers each call. -/
def run {σ : Type} (respond : Call → σ → Outcome × σ) :
    Dialogue ε α → σ → Transcript σ ε α
  | done r, s => ⟨r, [], [], s⟩
  | note r next, s =>
    let t := next.run respond s
    { t with notes := r :: t.notes }
  | call c next, s =>
    let (o, s) := respond c s
    let t := (next o).run respond s
    { t with calls := c :: t.calls }

/-- Outcomes that are given one after the other. -/
abbrev Script := List Outcome

/-- The partner that takes its answers from a script. When the script is used up, every program
ends well and says nothing. -/
def Script.respond (_ : Call) : Script → Outcome × Script
  | [] => (.finished 0 [] [], [])
  | o :: os => (o, os)

/-- The dialogue with a script. -/
def runScript (d : Dialogue ε α) (script : Script) : Transcript Script ε α :=
  d.run Script.respond script

end Dialogue

end PinGate
