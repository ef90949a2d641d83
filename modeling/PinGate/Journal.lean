-- Records that the gate keeps of its own work. A record belongs to one area of the gate and has
-- a weight; how much of the journal is kept is for the command line to say.
import PinGate.Text.Basic

namespace PinGate

/-- The areas that keep records. -/
inductive Area where
  | gate | rules | analyzer | gitHub | action
  deriving Repr, DecidableEq

/-- The name of an area. -/
def Area.name : Area → Text
  | gate => "pinlint".toList
  | rules => "pinlint.rules".toList
  | analyzer => "pinlint.analyzer".toList
  | gitHub => "pinlint.github".toList
  | action => "pinlint.action".toList

/-- The weight of a record, the lightest first. -/
inductive Level where
  | debug | info | warning | error
  deriving Repr, DecidableEq

namespace Level

/-- The name of a level. -/
def name : Level → Text
  | debug => "DEBUG".toList
  | info => "INFO".toList
  | warning => "WARNING".toList
  | error => "ERROR".toList

/-- The place of a level among the others. -/
def rank : Level → Nat
  | debug => 0
  | info => 1
  | warning => 2
  | error => 3

end Level

/-- One record. -/
structure Record where
  area : Area
  level : Level
  message : Text
  deriving Repr, DecidableEq

/-- Whether a journal that keeps `level` and above keeps a record. -/
def Record.reaches (level : Level) (r : Record) : Bool := level.rank ≤ r.level.rank

end PinGate
