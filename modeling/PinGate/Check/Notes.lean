-- What the checks note in the journal.
import PinGate.Check.Migration
import PinGate.Journal

namespace PinGate.Check

open Text

/-- A debug record of the rules. -/
def note (message : Text) : Record := ⟨.rules, .debug, message⟩

/-- The number of lines that choose a base image, then each image that can be read. -/
def dockerfileNotes (content : Text) : List Record :=
  note ("Found ".toList ++ ofNat (BaseLine.all (stripMarkers content)).length ++
      " FROM line(s)".toList) ::
    (baseImages content).map fun i =>
      note ("Analyzing image ".toList ++ i.image ++ ", tag ".toList ++
        i.tag.getD "None".toList)

/-- That a test for existence silences the rules, where it does. -/
def migrationNotes (content : Text) : List Record :=
  if isSilenced content then
    [note "Existence guard found in migration block, statement rules suppressed".toList]
  else []

end PinGate.Check
