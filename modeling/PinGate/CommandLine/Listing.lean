-- The listing of what is checked: every validator with the paths it applies to, and migrations.
import PinGate.Terminal.Table
import PinGate.Validator

namespace PinGate.CommandLine

namespace Listing

open Terminal

/-- Several texts in one cell; a dash stands for none. -/
def cell (parts : List Text) : Text :=
  if parts.isEmpty then ['-'] else ", ".toList.intercalate parts

/-- The row of a validator. -/
def row (v : Validator) : List Text :=
  [v.group.name, v.name, cell v.selector.extensions, cell v.selector.patterns]

/-- The row of migrations. -/
def migrationRow : List Text :=
  ["migrations".toList, "sql".toList, cell (Check.migrationSuffixes.map ('*' :: ·)),
    '*' :: Check.migrationDirectory ++ ['*']]

/-- The table of all that is checked, a section for each group. -/
def table : Table where
  title := "Validators".toList
  columns := ["Group".toList, "Name".toList, "Extensions".toList, "Patterns".toList]
  sections := Group.all.map (fun g => g.members.map row) ++ [[migrationRow]]

end Listing

end PinGate.CommandLine
