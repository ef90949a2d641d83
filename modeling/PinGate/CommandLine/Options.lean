-- Reading options from arguments. An option has a long name and may have a letter; it stands alone
-- or takes a value, which follows it in the same argument or is the next one. Letters can share an
-- argument. A double dash ends the options. An argument that is no option is kept; either it ends
-- the options too, or they may go on behind it.
import PinGate.Text.Basic

namespace PinGate.CommandLine

open Text

/-- An option that a command knows. -/
structure Switch (κ : Type) where
  key : κ
  name : Text
  letter : Option Char := none
  takesValue : Bool := false

/-- What the arguments say: the options in order, each with its value, and the other arguments. A
value that an option does not take is empty. -/
structure Reading (κ : Type) where
  given : List (κ × Text)
  rest : List Text
  deriving Repr, DecidableEq

namespace Reading

variable {κ : Type}

/-- The reading behind some more options. -/
def behind (given : List (κ × Text)) (r : Reading κ) : Reading κ := ⟨given ++ r.given, r.rest⟩

/-- The reading behind one more argument that is no option. -/
def behindOther (arg : Text) (r : Reading κ) : Reading κ := ⟨r.given, arg :: r.rest⟩

/-- The value that an option is given last. -/
def value? [BEq κ] (r : Reading κ) (key : κ) : Option Text :=
  (r.given.reverse.find? fun g => g.1 == key).map Prod.snd

/-- Whether an option is given. -/
def has [BEq κ] (r : Reading κ) (key : κ) : Bool := (r.value? key).isSome

end Reading

/-- The options in one argument, and the one that takes the next argument as its value. -/
structure Step (κ : Type) where
  given : List (κ × Text) := []
  open? : Option κ := none
  deriving Repr, DecidableEq

variable {κ : Type}

/-- The options that the letters of an argument stand for. Behind one that takes a value, the
value begins. -/
def readLetters? (options : List (Switch κ)) : Text → Option (Step κ)
  | [] => some {}
  | c :: r => do
    let o ← options.find? (·.letter == some c)
    if o.takesValue then
      if r.isEmpty then return { open? := some o.key } else return { given := [(o.key, r)] }
    else
      let step ← readLetters? options r
      return { step with given := (o.key, []) :: step.given }

/-- The options in an argument that starts with a dash. -/
def readOption? (options : List (Switch κ)) (arg : Text) : Option (Step κ) :=
  let (name, value) := match splitOnce? '=' arg with
    | some (name, value) => (name, some value)
    | none => (arg, none)
  match options.find? (·.name == name) with
  | some o =>
    match o.takesValue, value with
    | true, some value => some { given := [(o.key, value)] }
    | true, none => some { open? := some o.key }
    | false, some _ => none
    | false, none => some { given := [(o.key, [])] }
  | none => if startsWith ['-', '-'] arg then none else readLetters? options (arg.drop 1)

/-- Whether an argument is one or more options. A dash alone is not. -/
def isOption (arg : Text) : Bool := startsWith ['-'] arg && arg != ['-']

/-- What some arguments say to a command that knows `options`. -/
def readArguments? (options : List (Switch κ)) (interspersed : Bool) :
    List Text → Option (Reading κ)
  | [] => some ⟨[], []⟩
  | arg :: args =>
    if arg == ['-', '-'] then some ⟨[], args⟩
    else if isOption arg then
      match readOption? options arg, args with
      | none, _ => none
      | some ⟨given, none⟩, args => (readArguments? options interspersed args).map (·.behind given)
      | some ⟨_, some _⟩, [] => none
      | some ⟨given, some key⟩, value :: args =>
        (readArguments? options interspersed args).map (·.behind (given ++ [(key, value)]))
    else if interspersed then
      (readArguments? options interspersed args).map (·.behindOther arg)
    else some ⟨[], arg :: args⟩

end PinGate.CommandLine
