-- What the gate objects to, and how each objection reads in a report.
import PinGate.Text.Basic

namespace PinGate

/-- One objection. The fields are the names and versions as they stand in the text. -/
inductive Finding where
  /-- A package of a JavaScript manifest has a version range. -/
  | packageRange (package version : Text)
  /-- A line of a requirements file has no version, or a range. -/
  | requirementRange (name : Text) (constraint : Option Text)
  /-- A gem has a version range. -/
  | gemRange (gem version : Text)
  /-- A Gradle dependency has a dynamic version. -/
  | gradleVersion (group artifact version : Text)
  /-- A Maven version is a snapshot or an alias. -/
  | mavenVersion (version : Text)
  /-- A base image has no tag. -/
  | baseUntagged (image : Text)
  /-- A base image has a tag that can move. -/
  | baseFloating (image tag : Text)
  /-- The image of a container has no tag, or one that can move. -/
  | containerImage (image : Text) (tag : Option Text)
  /-- The image of a compose service has no tag, or one that can move. -/
  | serviceImage (image : Text) (tag : Option Text)
  /-- A workflow uses an action at something other than a full version. -/
  | actionRef (action ref : Text)
  /-- A migration is not wrapped in a block. -/
  | unwrappedMigration
  /-- A statement of a migration breaks a rule, which gives the advice itself. -/
  | statement (advice : Text)
  deriving Repr, DecidableEq

namespace Finding

/-- The sign in front of every objection. -/
def mark : Text := "⚠️ ".toList

/-- A name between backticks. -/
def code (s : Text) : Text := '`' :: s ++ ['`']

/-- The objection as it reads in a report. -/
def message : Finding → Text
  | packageRange package version =>
    mark ++ "Package ".toList ++ code package ++
      " should use exact version instead of ".toList ++ code version ++
      ". Use exact version pinning for reproducible builds.".toList
  | requirementRange name constraint =>
    mark ++ "Python package ".toList ++ code name ++
      " should use exact version (==) instead of ".toList ++
      code (constraint.getD "unspecified".toList) ++ ['.']
  | gemRange gem version =>
    mark ++ "Ruby gem ".toList ++ code gem ++
      " should use exact version instead of ".toList ++ code version ++ ['.']
  | gradleVersion group artifact version =>
    mark ++ "Gradle dependency ".toList ++ code (group ++ ':' :: artifact) ++
      " should use exact version instead of ".toList ++ code version ++ ['.']
  | mavenVersion version =>
    mark ++ "Maven dependency should use exact version instead of ".toList ++ code version ++ ['.']
  | baseUntagged image =>
    mark ++ "Docker image ".toList ++ code image ++
      (" has no version tag specified. " ++
        "Use specific version tags for reproducible builds.").toList
  | baseFloating image tag =>
    mark ++ "Docker image ".toList ++ code (image ++ ':' :: tag) ++
      (" uses non-specific tag. " ++
        "Use complete version numbers (e.g., '20.5.0-alpine3.18').").toList
  | containerImage image tag =>
    mark ++ "Kubernetes container ".toList ++ code image ++
      " should use specific version tag instead of ".toList ++
      code (tag.getD "latest".toList) ++ ['.']
  | serviceImage image tag =>
    mark ++ "Docker Compose service ".toList ++ code image ++
      " should use specific version tag instead of ".toList ++
      code (tag.getD "latest".toList) ++ ['.']
  | actionRef action ref =>
    mark ++ "GitHub Action ".toList ++ code action ++
      " should use exact version (e.g., v1.2.3) instead of ".toList ++ code ref ++
      ". Use specific versions for reproducible workflows.".toList
  | unwrappedMigration =>
    mark ++ "Migration should be wrapped in `DO $$ BEGIN ... END $$` block".toList
  | statement advice => advice

end Finding

end PinGate
