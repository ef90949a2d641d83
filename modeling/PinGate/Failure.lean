-- Everything that can end a run early.
import PinGate.Diff.Reader
import PinGate.GitHub.Basic
import PinGate.Settings

namespace PinGate

/-- The cause of a failure. -/
inductive Failure where
  | settings (e : Settings.Error)
  | event (e : Event.Error)
  | gitHub (e : GitHub.Error)
  | diff (e : Diff.Error)
  | file (e : FileFault)
  /-- A call ended in an error of the machine's own, which says this. -/
  | call (told : Text)
  deriving Repr, DecidableEq

namespace Failure

/-- The failure as it is told. -/
def message : Failure → Text
  | settings e => e.message
  | event e => e.message
  | gitHub e => e.message
  | diff e => e.message
  | file e => e.message
  | call told => told

/-- Whether the gate foresees the failure. The others come from values that no one checked. -/
def isForeseen : Failure → Bool
  | settings _ => true
  | event (.notFound _) => true
  | event (.notJson _ _ _) => true
  | event .noNumber => true
  | event .noRepository => true
  | event _ => false
  | gitHub _ => true
  | diff (.malformedHeader _ _) => true
  | diff (.number _) => false
  | file _ => false
  | call _ => false

end Failure

end PinGate
