import DiskLayout.Document.Customization
import DiskLayout.Document.Format
import DiskLayout.Document.Profile
import DiskLayout.Document.Table
import DiskLayout.Error
import DiskLayout.Log

/-!
# Loading documents

A command names its documents by paths.  Loading a document takes three steps that fail with
different errors: reading the text at the path, reading the document in the text, and, for a
profile, checking the profile.

## Main definitions

* `Files` — what can be read at paths
* `ImageProfile.load`, `Customizations.load`, `PartitionTable.load` — loading by a path
-/

namespace DiskLayout

/-- The texts that can be read at paths; none where there is no text to read. -/
abbrev Files := String → Option String

/-- Everything about loading a kind of document that depends on the kind. -/
structure LoadingRule (α : Type) where
  /-- What the documents are called. -/
  noun : String
  decode : Decoder α
  /-- The error of a path without a text. -/
  unreadable : String → ConfigError
  /-- The error of a text without a document. -/
  malformed : ConfigError
  /-- The format of the document at a path. -/
  format : String → DocumentFormat
  /-- What a document in a format is called where its text is refused. -/
  refusedNoun : DocumentFormat → String

namespace LoadingRule

/-- The part of the program that reports which documents are read and written. -/
def target : String := "diskplan::documents"

/-- The value that there is, or an error with a context. -/
def require {α : Type} (value? : Option α) (error : ConfigError) (context : String) :
    Logged Report α :=
  match value? with
  | some value => pure value
  | none => throw ((Report.config error).within context)

/-- Loads the document at a path. -/
def load {α : Type} (rule : LoadingRule α) (files : Files) (path : String) : Logged Report α := do
  Logged.note .debug target ("Loading " ++ rule.noun ++ " from '" ++ path ++ "'")
  let text ← require (files path) (rule.unreadable path) ("Failed to read " ++ rule.noun)
  let format := rule.format path
  require (format.decode? rule.decode text) rule.malformed
    ("Failed to parse " ++ rule.refusedNoun format ++ " '" ++ path ++ "'")

/-- Profiles are YAML whatever their files are called. -/
def profile : LoadingRule ImageProfile where
  noun := "image profile"
  decode := ImageProfile.decode
  unreadable := .loadProfile
  malformed := .parseProfile
  format _ := .yaml
  refusedNoun _ := "image profile"

/-- Customizations are read in the format that the names of their files tell. -/
def customizations : LoadingRule Customizations where
  noun := "customizations"
  decode := Customizations.decode
  unreadable := .loadCustomizations
  malformed := .parseCustomizations
  format := DocumentFormat.ofPath
  refusedNoun format := format.name.toUpper ++ " customizations"

/-- Partition tables are read in the format that the names of their files tell. -/
def table : LoadingRule PartitionTable where
  noun := "partition table"
  decode := PartitionTable.decode
  unreadable := .loadPartitionTable
  malformed := .parsePartitionTable
  format := DocumentFormat.ofPath
  refusedNoun _ := "partition table"

end LoadingRule

/-- Loads the profile at a path and checks it. -/
def ImageProfile.load (files : Files) (path : String) : Logged Report ImageProfile := do
  let profile ← LoadingRule.profile.load files path
  profile.validate.mapError fun error =>
    (Report.config error).within ("Image profile '" ++ path ++ "' is invalid")
  return profile

/-- Loads the customizations at a path. -/
def Customizations.load (files : Files) (path : String) : Logged Report Customizations :=
  LoadingRule.customizations.load files path

/-- Loads the partition table at a path. -/
def PartitionTable.load (files : Files) (path : String) : Logged Report PartitionTable :=
  LoadingRule.table.load files path

end DiskLayout
