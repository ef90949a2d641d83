-- Which files are checked, and how. A validator names the endings and the patterns of the paths
-- it applies to; the validators stand in groups, in a fixed order.
import PinGate.Check.Dockerfile
import PinGate.Check.Gems
import PinGate.Check.Java
import PinGate.Check.Manifest
import PinGate.Check.Node
import PinGate.Check.Notes
import PinGate.Check.Requirements
import PinGate.Check.Workflow
import PinGate.Glob.PathMatch

namespace PinGate

/-- Which paths something applies to. -/
structure Selector where
  extensions : List Text
  patterns : List Text
  deriving Repr, DecidableEq

/-- Whether a path ends with one of the endings or matches one of the patterns. -/
def Selector.appliesTo (s : Selector) (path : Text) : Bool :=
  s.extensions.any (Text.endsWith · path) || s.patterns.any (Glob.matchesPath · path)

/-- The kinds of file that are checked. -/
inductive Validator where
  | node | python | ruby | java | docker | kubernetes | compose | actions
  deriving Repr, DecidableEq

/-- The groups of validators. -/
inductive Group where
  | package | container | workflow
  deriving Repr, DecidableEq

namespace Validator

/-- All validators, in order. -/
def all : List Validator := [node, python, ruby, java, docker, kubernetes, compose, actions]

/-- The name of a validator. -/
def name : Validator → Text
  | node => "node".toList
  | python => "python".toList
  | ruby => "ruby".toList
  | java => "java".toList
  | docker => "docker".toList
  | kubernetes => "kubernetes".toList
  | compose => "compose".toList
  | actions => "actions".toList

/-- The group of a validator. -/
def group : Validator → Group
  | node | python | ruby | java => .package
  | docker | kubernetes | compose => .container
  | actions => .workflow

/-- The files a validator applies to. -/
def selector : Validator → Selector
  | node => ⟨["package.json".toList], ["package.json".toList]⟩
  | python => ⟨[".txt".toList, ".pip".toList],
      ["requirements.txt".toList, "requirements/*.txt".toList, "requirements/**.txt".toList]⟩
  | ruby => ⟨[".gemfile".toList, ".gemspec".toList], ["Gemfile".toList, "Gemfile.lock".toList]⟩
  | java => ⟨[".gradle".toList, ".pom".toList], ["build.gradle".toList, "pom.xml".toList]⟩
  | docker => ⟨["Dockerfile".toList],
      ["Dockerfile".toList, "**/Dockerfile".toList, "docker/Dockerfile".toList]⟩
  | kubernetes => ⟨[".yaml".toList, ".yml".toList],
      ["k8s/*.y{a,}ml".toList, "kubernetes/*.y{a,}ml".toList]⟩
  | compose => ⟨[".yaml".toList, ".yml".toList], ["docker-compose.y{a,}ml".toList]⟩
  | actions => ⟨[], [".github/workflows/*.y{a,}ml".toList]⟩

/-- The check of a validator. -/
def check : Validator → Text → List Finding
  | node => Check.node
  | python => Check.requirements
  | ruby => Check.gems
  | java => Check.java
  | docker => Check.dockerfile
  | kubernetes => Check.kubernetes
  | compose => Check.compose
  | actions => Check.workflow

/-- What the check of a validator notes in the journal. -/
def notes : Validator → Text → List Record
  | docker => Check.dockerfileNotes
  | _ => fun _ => []

/-- The validators that apply to a path, in order. -/
def forPath (path : Text) : List Validator := all.filter (·.selector.appliesTo path)

end Validator

namespace Group

/-- All groups, in order. -/
def all : List Group := [package, container, workflow]

/-- The name of a group. -/
def name : Group → Text
  | package => "package".toList
  | container => "container".toList
  | workflow => "workflow".toList

/-- The validators of a group, in order. -/
def members (g : Group) : List Validator := Validator.all.filter (·.group = g)

end Group

end PinGate
