-- The commands of the gate.
import PinGate.CommandLine.Gate
import PinGate.CommandLine.Listing
import PinGate.CommandLine.Scan

namespace PinGate.CommandLine

/-- The version of the gate. -/
def versionLine : Text := "pinlint, version 0.1.0\n".toList

/-- An invocation carried out. -/
def Invocation.perform (s : Surroundings) (i : Invocation) : Dialogue Empty Ending :=
  match i.request with
  | .help => return { output := s.packages.arguments.help }
  | .version => return { output := versionLine }
  | .run token => Gate.run s i.verbose token
  | .scan options => Scan.run s i.verbose options
  | .validators => return { output := s.packages.console.table Listing.table }

/-- What the gate does with some arguments. -/
def perform (s : Surroundings) (args : List Text) : Dialogue Empty Ending :=
  match s.packages.arguments.read args with
  | some i => i.perform s
  | none => return Ending.misuse

end PinGate.CommandLine
