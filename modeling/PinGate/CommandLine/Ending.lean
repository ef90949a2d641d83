-- How a command ends, and what it finds around it when it begins.
import PinGate.CommandLine.Invocation
import PinGate.Failure
import PinGate.Journal
import PinGate.Terminal.Console

namespace PinGate.CommandLine

open Text

/-- The packages that do a part of the work of a command. What is known of each is what its laws
say; which one it is makes no other difference to the gate. -/
structure Packages where
  arguments : ArgumentReader
  records : RecordCheck
  console : Console

/-- The packages of this project. -/
def Packages.standard : Packages := ⟨.standard, .standard, .standard⟩

/-- What a command finds around it. -/
structure Surroundings where
  packages : Packages
  workspace : Workspace
  environment : Environment := []
  input : Text := []

/-- What a command leaves behind: its exit code, its output, the least level of record that it
kept, and a failure that it did not deal with. -/
structure Ending where
  code : Nat := 0
  output : Text := []
  level : Level := .debug
  escaped : Option Failure := none
  deriving Repr, DecidableEq

namespace Ending

/-- The end of a command that was not understood. -/
def misuse : Ending := { code := 2 }

/-- The end by a failure that the command does not deal with. -/
def escape (level : Level) (e : Failure) : Ending := { code := 1, level, escaped := some e }

end Ending

end PinGate.CommandLine
