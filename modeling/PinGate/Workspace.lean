-- The files and directories within reach of a run. What is known is known by its path, from the
-- directory of the run or in full; other spellings of a path are followed name by name.
import PinGate.Text.Quoted
import PinGate.Text.Utf8

namespace PinGate

open Text

/-- Files by their paths, and the paths of directories beside those that hold the files. -/
structure Workspace where
  files : List (Text × List UInt8)
  directories : List Text := []

/-- What stands at a path. -/
inductive Entry where
  | missing
  | directory
  | file (content : List UInt8)
  /-- The path, or a name in it, is longer than any can be. -/
  | nameTooLong
  /-- The path holds the character zero, which no path can. -/
  | unnameable
  deriving Repr, DecidableEq

/-- Why a file cannot be read. -/
inductive FileFault where
  | isDirectory (path : Text)
  | nameTooLong (path : Text)
  | unnameable
  | encoding (fault : EncodingFault)
  deriving Repr, DecidableEq

namespace FileFault

/-- The bytes at fault, and where they stand. -/
def place (fault : EncodingFault) : Text :=
  match fault.bytes with
  | [b] => "byte 0x".toList ++ hex 2 b.toNat ++ " in position ".toList ++ ofNat fault.position
  | bytes =>
    "bytes in position ".toList ++ ofNat fault.position ++ '-' ::
      ofNat (fault.position + bytes.length - 1)

/-- A flaw, in words. -/
def flawName : EncodingFlaw → Text
  | .start => "invalid start byte".toList
  | .continuation => "invalid continuation byte".toList
  | .truncated => "unexpected end of data".toList

/-- The fault as it is told. -/
def message : FileFault → Text
  | isDirectory path => "[Errno 21] Is a directory: ".toList ++ quoted path
  | nameTooLong path => "[Errno 36] File name too long: ".toList ++ quoted path
  | unnameable => "embedded null byte".toList
  | encoding fault =>
    "'utf-8' codec can't decode ".toList ++ place fault ++ ": ".toList ++ flawName fault.flaw

end FileFault

/-! ## Paths -/

/-- The names of a path, without empty ones and single points. -/
def pathParts (path : Text) : List Text :=
  (path.splitOn '/').filter fun part => !part.isEmpty && part != ['.']

/-- A path in its plain form: no empty names, no single points, no slash at the end. -/
def plainPath (path : Text) : Text :=
  let body := ['/'].intercalate (pathParts path)
  if startsWith "//".toList path && !startsWith "///".toList path then '/' :: '/' :: body
  else if startsWith ['/'] path then '/' :: body
  else if body.isEmpty then ['.']
  else body

/-- The name that leads one directory up. -/
def parentName : Text := ['.', '.']

/-- One more name of a path. A step up takes back the name before it; without one, it leads
nowhere from the root and outside from the directory of the run. -/
def settleStep (isFull : Bool) (names : List Text) (part : Text) : List Text :=
  if part != parentName then names ++ [part]
  else
    match names.getLast? with
    | none => if isFull then [] else [part]
    | some last => if last == parentName then names ++ [part] else names.dropLast

/-- A path with as few steps up as can be. -/
def settled (path : Text) : Text :=
  let isFull := startsWith ['/'] path
  let body := ['/'].intercalate ((pathParts path).foldl (settleStep isFull) [])
  if isFull then '/' :: body else body

/-- The most bytes that a name can have. -/
def maxNameBytes : Nat := 255

/-- The most bytes that a path can have. -/
def maxPathBytes : Nat := 4095

namespace Workspace

/-- Whether a row of names leads to a directory of the run's own. -/
def hasDirectory (w : Workspace) (names : List Text) : Bool :=
  names.isEmpty || w.files.any fun f =>
    let parts := f.1.splitOn '/'
    names.isPrefixOf parts && names.length < parts.length

/-- What a row of names leads to. -/
def entryAt (w : Workspace) (names : List Text) : Entry :=
  if w.hasDirectory names then .directory
  else
    match w.files.find? fun f => f.1.splitOn '/' == names with
    | some f => .file f.2
    | none => .missing

/-- What the rest of a path leads to from a directory. Above the directory of the run nothing but
further directories is known. -/
def walk (w : Workspace) (names : List Text) (outside : Bool) : List Text → Entry
  | [] => if outside then .directory else w.entryAt names
  | part :: parts =>
    if maxNameBytes < byteLength part then .nameTooLong
    else if part == parentName then
      if names.isEmpty then w.walk [] true parts else w.walk names.dropLast outside parts
    else if outside then .missing
    else
      match w.entryAt (names ++ [part]) with
      | .directory => w.walk (names ++ [part]) false parts
      | .file content => if parts.isEmpty then .file content else .missing
      | entry => entry

/-- What a full path leads to. -/
def entryAtFull (w : Workspace) (names : List Text) : Entry :=
  if names.any fun part => maxNameBytes < byteLength part then .nameTooLong
  else if w.directories.any fun d => startsWith ['/'] d && pathParts d == names then .directory
  else .missing

/-- What a path leads to. -/
def lookUp (w : Workspace) (path : Text) : Entry :=
  if path.any (· == '\x00') then .unnameable
  else
    match w.files.find? (·.1 == path) with
    | some f => .file f.2
    | none =>
      if w.directories.elem path then .directory
      else if maxPathBytes < byteLength path then .nameTooLong
      else if startsWith ['/'] path then w.entryAtFull (pathParts path)
      else w.walk [] false (pathParts path)

/-- What a path leads to when each step up takes back the name before it, whatever that names. -/
def lookUpSettled (w : Workspace) (path : Text) : Entry := w.lookUp (settled path)

/-- The text of a file. A path that ends with a slash names no file. -/
def readFile? (w : Workspace) (path : Text) : Option (Except FileFault Text) :=
  match w.lookUp path with
  | .file content =>
    if endsWith ['/'] path || endsWith "/.".toList path then none
    else some ((ofBytes content).mapError .encoding)
  | .unnameable => some (.error .unnameable)
  | _ => none

end Workspace

end PinGate
