-- What the gate is told to do: the commands, their options, and how arguments are read as an
-- invocation of one of them. The reading is the work of a package that is not the gate's own.
import PinGate.CommandLine.Options

namespace PinGate.CommandLine

open Text

/-- How the result of a scan is written. -/
inductive Format where
  | text | markdown | json
  deriving Repr, DecidableEq

/-- The format of a name. -/
def Format.ofName? (name : Text) : Option Format :=
  if name = "text".toList then some text
  else if name = "markdown".toList then some markdown
  else if name = "json".toList then some json
  else none

/-- How a diff is scanned: where it comes from and how the result is written. -/
structure ScanOptions where
  /-- The file with the diff; a dash stands for the input. -/
  source : Option Text := none
  /-- The repository that is compared with `base` when there is no file. -/
  path : Text := ['.']
  base : Text := "main".toList
  format : Format := .text
  deriving Repr, DecidableEq

/-- What the gate is asked for. -/
inductive Request where
  | help
  | version
  | run (token : Option Text)
  | scan (options : ScanOptions)
  | validators
  deriving Repr, DecidableEq

/-- A request, and whether a full journal is wanted. -/
structure Invocation where
  verbose : Bool
  request : Request
  deriving Repr, DecidableEq

/-! ## The options -/

/-- The options of all commands. -/
inductive Key where
  | help | version | verbose | token | path | base | format
  deriving Repr, DecidableEq

/-- The option that every command knows. -/
def helpOption : Switch Key := { key := .help, name := "--help".toList }

/-- The options before the command. -/
def gateOptions : List (Switch Key) :=
  [{ key := .version, name := "--version".toList },
   { key := .verbose, name := "--verbose".toList, letter := some 'v' },
   helpOption]

/-- The options of the check of a pull request. -/
def runOptions : List (Switch Key) :=
  [{ key := .token, name := "--token".toList, takesValue := true }, helpOption]

/-- The options of a scan. -/
def scanOptions : List (Switch Key) :=
  [{ key := .path, name := "--path".toList, letter := some 'p', takesValue := true },
   { key := .base, name := "--base".toList, letter := some 'b', takesValue := true },
   { key := .format, name := "--format".toList, takesValue := true },
   helpOption]

/-! ## The commands -/

/-- The check of a pull request that some arguments ask for. -/
def readRun? (args : List Text) : Option Request := do
  let r ← readArguments? runOptions true args
  if r.has .help then return .help
  else if r.rest.isEmpty then return .run (r.value? .token)
  else none

/-- The scan that some arguments ask for. -/
def readScan? (args : List Text) : Option Request := do
  let r ← readArguments? scanOptions true args
  if r.has .help then return .help
  else
    let format ← (r.value? .format).elim (some .text) Format.ofName?
    if r.rest.length ≤ 1 then
      return .scan {
        source := r.rest.head?
        path := (r.value? .path).getD ['.']
        base := (r.value? .base).getD "main".toList
        format }
    else none

/-- The listing of validators that some arguments ask for. -/
def readValidators? (args : List Text) : Option Request := do
  let r ← readArguments? [helpOption] true args
  if r.has .help then return .help
  else if r.rest.isEmpty then return .validators
  else none

/-- How the arguments of a command are read. -/
def command? (name : Text) : Option (List Text → Option Request) :=
  if name = "run".toList then some readRun?
  else if name = "scan".toList then some readScan?
  else if name = "validators".toList then some readValidators?
  else none

/-- The request that the options before a command make, if one of them makes any. The first
counts. -/
def immediate? (r : Reading Key) : Option Request :=
  r.given.findSome? fun g =>
    match g.1 with
    | .help => some .help
    | .version => some .version
    | _ => none

/-- The invocation that some arguments make; none when they make no sense. What stands in the
place of a command and is none may still be an option that makes a request. -/
def Invocation.ofArguments? (args : List Text) : Option Invocation := do
  let r ← readArguments? gateOptions false args
  let verbose := r.has .verbose
  match immediate? r, r.rest with
  | some request, _ => return ⟨verbose, request⟩
  | none, [] => none
  | none, name :: args =>
    match command? name with
    | some read => return ⟨verbose, ← read args⟩
    | none =>
      let again ← readArguments? gateOptions false (name :: args)
      return ⟨verbose, ← immediate? again⟩

/-! ## The package that reads them -/

/-- The arguments that ask for a check of a pull request. -/
def runArguments (verbose : Bool) (token : Option Text) : List Text :=
  (if verbose then ["-v".toList] else []) ++ "run".toList ::
    token.elim [] fun t => ["--token".toList, t]

/-- A package that reads arguments, with the help that it gives for the options above. The gate
relies on it to know those that ask for a check. -/
structure ArgumentReader where
  read : List Text → Option Invocation
  help : Text
  reads_run : ∀ verbose token,
    read (runArguments verbose token) = some ⟨verbose, .run token⟩

/-- How the gate is invoked. -/
def usage : Text :=
  ("Usage: pinlint [--verbose] [--version] COMMAND\n\n" ++
    "  run [--token TOKEN]\n" ++
    "  scan [FILE] [--path PATH] [--base BRANCH] [--format text|markdown|json]\n" ++
    "  validators\n").toList

/-- The reading of this project. -/
def ArgumentReader.standard : ArgumentReader where
  read := Invocation.ofArguments?
  help := usage
  reads_run := by
    intro verbose token
    cases verbose <;> cases token <;> rfl

end PinGate.CommandLine
