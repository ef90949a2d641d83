-- Values of the JSON format. Whole numbers and others are told apart by how they are written.
import PinGate.Json.Binary64
import PinGate.Text.Basic

namespace PinGate.Json

/-- A value. -/
inductive Value where
  | null
  | bool (b : Bool)
  | int (n : Int)
  | real (x : Binary64)
  | string (s : Text)
  /-- A string that holds a surrogate without its partner, and so is no text. -/
  | unpaired (points : List Nat)
  | array (items : List Value)
  | object (members : List (Text × Value))
  deriving Repr, Inhabited

/-- The kinds of value. -/
inductive Kind where
  | null | bool | int | real | string | array | object
  deriving Repr, DecidableEq

namespace Value

/-- The kind of a value. -/
def kind : Value → Kind
  | null => .null
  | bool _ => .bool
  | int _ => .int
  | real _ => .real
  | string _ => .string
  | unpaired _ => .string
  | array _ => .array
  | object _ => .object

/-- Whether a value counts as present: neither null nor false nor zero nor empty. -/
def isPresent : Value → Bool
  | null => false
  | bool b => b
  | int n => n != 0
  | real x => !x.isZero
  | string s => !s.isEmpty
  | unpaired _ => true
  | array items => !items.isEmpty
  | object members => !members.isEmpty

/-! ## Equality -/

mutual

/-- Whether two values are the same. -/
def same : Value → Value → Bool
  | null, null => true
  | bool a, bool b => a == b
  | int m, int n => m == n
  | real x, real y => x == y
  | string s, string t => s == t
  | unpaired p, unpaired q => p == q
  | array vs, array ws => sameItems vs ws
  | object ms, object ns => sameMembers ms ns
  | _, _ => false

def sameItems : List Value → List Value → Bool
  | [], [] => true
  | v :: vs, w :: ws => same v w && sameItems vs ws
  | _, _ => false

def sameMembers : List (Text × Value) → List (Text × Value) → Bool
  | [], [] => true
  | (a, v) :: ms, (b, w) :: ns => a == b && same v w && sameMembers ms ns
  | _, _ => false

end

mutual

theorem same_iff : ∀ v w : Value, same v w = true ↔ v = w
  | null, w => by cases w <;> simp [same]
  | bool _, w => by cases w <;> simp [same]
  | int _, w => by cases w <;> simp [same]
  | real _, w => by cases w <;> simp [same]
  | string _, w => by cases w <;> simp [same]
  | unpaired _, w => by cases w <;> simp [same]
  | array vs, w => by cases w <;> simp [same, sameItems_iff vs]
  | object ms, w => by cases w <;> simp [same, sameMembers_iff ms]

theorem sameItems_iff : ∀ vs ws : List Value, sameItems vs ws = true ↔ vs = ws
  | [], ws => by cases ws <;> simp [sameItems]
  | v :: vs, ws => by cases ws <;> simp [sameItems, same_iff v, sameItems_iff vs]

theorem sameMembers_iff : ∀ ms ns : List (Text × Value), sameMembers ms ns = true ↔ ms = ns
  | [], ns => by cases ns <;> simp [sameMembers]
  | (a, v) :: ms, ns => by
    cases ns with
    | nil => simp [sameMembers]
    | cons n ns => simp [sameMembers, same_iff v, sameMembers_iff ms, Prod.ext_iff]

end

instance : DecidableEq Value := fun v w => decidable_of_iff _ (same_iff v w)

end Value

/-- The value of a member; of several with one name, the last. Without any it is null. -/
def lookUp (name : Text) (members : List (Text × Value)) : Value :=
  ((members.reverse.find? fun m => m.1 == name).map Prod.snd).getD .null

end PinGate.Json
