-- The console. What the gate writes goes through two packages that are not its own: one writes raw
-- output, the other shows messages in rows of some width and breaks those that do not fit. Where
-- and how it breaks them is left to it; the gate relies on no more than the laws that stand here.
import PinGate.Terminal.Message
import PinGate.Terminal.RawOutput
import PinGate.Terminal.Table

namespace PinGate

open Text Terminal

/-- The packages that write, on an output that is no terminal. -/
structure Console where
  /-- The characters that fit in a row. -/
  columns : Nat
  /-- A text as raw output. -/
  echo : Text → Text
  /-- A message behind a sign. -/
  line : Sign → Text → Text
  /-- One entry of a numbered list. -/
  item : Nat → Text → Text
  table : Table → Text
  echo_nil : echo [] = ['\n']
  /-- Only commands to a terminal and carriage returns are changed, and what is in front of them is
  not. -/
  echo_append : ∀ {a : Text}, IsPlain a → ∀ s, echo (a ++ s) = a ++ echo s
  /-- Raw output is not broken into rows. -/
  echo_of_not_mem : ∀ {s : Text}, '\n' ∉ s → ∃ t, '\n' ∉ t ∧ echo s = t ++ ['\n']
  line_ends : ∀ sign message, ∃ rows, line sign message = rows ++ ['\n']
  /-- A message of words that fits in a row is shown as it is. -/
  line_of_isWords : ∀ {s : Text}, IsWords s → s.length + 2 ≤ columns → ∀ sign,
    line sign s = sign.symbol :: ' ' :: s ++ ['\n']

namespace Console

/-- A list whose entries are numbered from one on. -/
def items (c : Console) (messages : List Text) : Text :=
  (messages.zipIdx 1).flatMap fun m => c.item m.2 m.1

theorem echo_of_plain (c : Console) {s : Text} (h : IsPlain s) : c.echo s = s ++ ['\n'] := by
  have happend := c.echo_append h []
  rw [List.append_nil, c.echo_nil] at happend
  exact happend

/-- The console of this project, where every message is taken to fit. -/
def standard : Console where
  columns := 20000
  echo := Terminal.echo
  line := Terminal.line
  item := Terminal.item
  table := Table.render
  echo_nil := Terminal.echo_nil
  echo_append := Terminal.echo_append
  echo_of_not_mem := Terminal.echo_of_not_mem
  line_ends := fun _ _ => ⟨_, rfl⟩
  line_of_isWords := fun h _ sign => Terminal.line_of_isWords h sign

end Console

end PinGate
