-- Migrations of a database. A migration has to be wrapped in a block; inside, four shapes of
-- statement are objected to unless the block tests for existence somewhere. Case is ignored,
-- and any blanks may stand between two words.
import PinGate.Check.Dockerfile
import PinGate.Text.Keyword
import PinGate.Text.Word

namespace PinGate.Check

open Text

/-! ## The block -/

/-- What follows the opening of a block, at the start of a text. -/
def dropOpening? (s : Text) : Option Text := do
  let s ← dropWord? "DO".toList s
  let s ← dropPrefix? ['$', '$'] (skipBlanks s)
  dropWord? "BEGIN".toList (skipBlanks s)

/-- Whether the end of a block begins a text. -/
def beginsClosing (s : Text) : Bool :=
  ((dropWord? "END".toList s).bind fun r => dropPrefix? ['$', '$'] (skipBlanks r)).isSome

/-- Whether a block is opened, and one is closed anywhere behind that. -/
def isWrapped (clean : Text) : Bool :=
  somewhere (fun s => ((dropOpening? s).map (somewhere beginsClosing)).getD false) clean

/-- The text between the first `BEGIN` and the first `END` behind it. -/
def block? (clean : Text) : Option Text := do
  let (_, s) ← cutAt? "BEGIN".toList clean
  let (body, _) ← cutAt? "END".toList s
  return body

/-- Whether existence is tested anywhere in a block. -/
def isGuarded (block : Text) : Bool :=
  somewhere (beginsPhrase [["IF".toList, "EXISTS".toList], ["IF".toList, "NOT".toList,
    "EXISTS".toList]]) block

/-! ## The rules -/

/-- The shapes of statement that can fail when they run twice. -/
inductive Shape where
  | createTable | alterTable | insertInto | dropTable
  deriving Repr, DecidableEq

namespace Shape

/-- The words a statement starts with. -/
def words : Shape → List Text
  | createTable => ["CREATE".toList, "TABLE".toList]
  | alterTable => ["ALTER".toList, "TABLE".toList]
  | insertInto => ["INSERT".toList, "INTO".toList]
  | dropTable => ["DROP".toList, "TABLE".toList]

/-- The phrases that excuse a statement when they follow its words on the same line. -/
def excuses : Shape → List (List Text)
  | createTable => [["IF".toList, "NOT".toList, "EXISTS".toList]]
  | alterTable => [["IF".toList, "EXISTS".toList], ["IF".toList, "NOT".toList, "EXISTS".toList]]
  | insertInto =>
    [["WHERE".toList, "NOT".toList, "EXISTS".toList], ["IF".toList, "NOT".toList, "EXISTS".toList]]
  | dropTable => [["IF".toList, "EXISTS".toList]]

/-- Whether a statement of this shape, without excuse and with a name, begins a text. -/
def begins (shape : Shape) (s : Text) : Bool :=
  match (dropPhrase? shape.words s).bind skipSomeBlanks? with
  | some (c :: r) => isWordChar c && !somewhereInLine (beginsPhrase shape.excuses) (c :: r)
  | _ => false

/-- Whether a statement of this shape stands anywhere in a block. -/
def occursIn (shape : Shape) (block : Text) : Bool := somewhere shape.begins block

end Shape

/-- A rule about one shape of statement. -/
structure Rule where
  shape : Shape
  advice : Text
  /-- Without this the rule is never broken. -/
  guardRequired : Bool := true
  deriving Repr, DecidableEq

/-- Whether a block breaks a rule. -/
def Rule.isBroken (rule : Rule) (block : Text) (guarded : Bool) : Bool :=
  rule.shape.occursIn block && (rule.guardRequired && !guarded)

/-- The rules in force, in order. -/
def Rule.standard : List Rule :=
  [{ shape := .createTable
     advice := Finding.mark ++
      "Use `CREATE TABLE IF NOT EXISTS` for idempotent table creation".toList },
   { shape := .alterTable
     advice := Finding.mark ++
      "Use `ALTER TABLE IF EXISTS` for idempotent table alterations".toList },
   { shape := .insertInto
     advice := Finding.mark ++
      "Consider adding `WHERE NOT EXISTS` check for idempotent data insertion".toList },
   { shape := .dropTable
     advice := Finding.mark ++
      "Use `DROP TABLE IF EXISTS` for idempotent table removal".toList }]

/-! ## The check -/

/-- The endings of the names of migrations. -/
def migrationSuffixes : List Text := [".sql".toList, ".migration".toList]

/-- The directory of migrations. -/
def migrationDirectory : Text := "migrations/".toList

/-- Whether a file is a migration. -/
def isMigrationPath (path : Text) : Bool :=
  migrationSuffixes.any (endsWith · path) || contains migrationDirectory path

/-- The objections to a migration under some rules. -/
def migrationUnder (rules : List Rule) (content : Text) : List Finding :=
  let clean := stripMarkers content
  if isWrapped clean then
    let block := (block? clean).getD []
    let guarded := isGuarded block
    (rules.filter (·.isBroken block guarded)).map fun r => .statement r.advice
  else [.unwrappedMigration]

/-- The objections to a migration. -/
def migration (content : Text) : List Finding := migrationUnder Rule.standard content

/-- Whether a test for existence keeps the statements of a migration from being looked at. -/
def isSilenced (content : Text) : Bool :=
  let clean := stripMarkers content
  isWrapped clean && isGuarded ((block? clean).getD [])

end PinGate.Check
