-- The program. It gathers what a command may look at, performs the command, and shows what that
-- leaves behind. No other program is started from here: each call counts as one of a program that
-- is missing.
import PinGate.CommandLine.Command

namespace PinGate.Program

open CommandLine

/-- The variables that the gate reads. -/
def variableNames : List String :=
  ["INPUT_GITHUB_TOKEN", "GITHUB_TOKEN", "GITHUB_EVENT_PATH", "GITHUB_REPOSITORY",
   "PINLINT_GH_TIMEOUT", "RUNNER_DEBUG"]

/-- The environment, as far as the gate reads it. -/
def environment : IO Environment :=
  variableNames.filterMapM fun name => do
    return (← IO.getEnv name).map fun value => (name.toList, value.toList)

/-- The file at a path, if there is one. -/
def file? (path : Text) : IO (Option (Text × List UInt8)) := do
  match ← (IO.FS.readBinFile (String.ofList path)).toBaseIO with
  | .ok content => return some (path, content.toList)
  | .error _ => return none

/-- Whether there is anything at a path. -/
def exists? (path : Text) : IO Bool := do
  match ← (IO.FS.realPath (String.ofList path)).toBaseIO with
  | .ok _ => return true
  | .error _ => return false

/-- Everything that the arguments and the environment name. -/
def surroundings (args : List Text) : IO Surroundings := do
  let environment ← environment
  let named := args ++ environment.map Prod.snd
  let paths := named ++ named.map settled
  let files ← paths.filterMapM file?
  let directories ← paths.filterM exists?
  let input ←
    if args.elem ['-'] then (← IO.getStdin).readToEnd
    else pure ""
  return {
    packages := .standard
    workspace := { files, directories }
    environment
    input := input.toList }

end PinGate.Program

def main (args : List String) : IO UInt32 := do
  let args := args.map String.toList
  let t := (PinGate.CommandLine.perform (← PinGate.Program.surroundings args) args).run
    (fun _ s => (.notFound, s)) ()
  for r in t.notes do
    IO.eprintln (String.ofList (r.level.name ++ ' ' :: r.message))
  match t.result with
  | .ok ending =>
    IO.print (String.ofList ending.output)
    if let some e := ending.escaped then
      IO.eprintln (String.ofList e.message)
    return ending.code.toUInt32
