import DiskLayout.Document.Format
import DiskLayout.Log
import DiskLayout.Platform
import DiskLayout.Table.Basic

/-!
# Commands

What a user can have done: build the table of an image, build a custom table, flatten a table,
check customizations against a policy, and validate a document.

## Main definitions

* `Command` — a command with its arguments
* `Invocation` — a command with what every command takes
-/

namespace DiskLayout

/-- Where a result is written, and in which format; without a path it is printed. -/
structure Output where
  path? : Option String
  format : DocumentFormat
deriving DecidableEq, Repr

namespace Output

/-- An output that goes to a path if it names none. -/
def redirect (path : String) (output : Output) : Output :=
  { output with path? := output.path?.orElse fun _ => some path }

end Output

/-- What a document that is validated holds. -/
inductive DocumentKind where
  | table
  | profile
  | customizations
deriving DecidableEq, Repr

namespace DocumentKind

/-- The name of a kind of documents. -/
def name : DocumentKind → String
  | table => "table"
  | profile => "profile"
  | customizations => "customizations"

/-- The kind of documents with a name. -/
def ofName? (text : String) : Option DocumentKind :=
  [table, profile, customizations].find? fun kind => kind.name == text

end DocumentKind

/-- The arguments for building the table of an image. -/
structure BuildArguments where
  profile : String
  customizations? : Option String
  seed? : Option Nat
  output : Output

/-- The arguments for building a custom table. -/
structure CustomArguments where
  customizations : String
  platform : Platform
  tableKind : TableKind
  defaultFilesystem : FilesystemType
  seed? : Option Nat
  output : Output

/-- The arguments for flattening a table. -/
structure FlattenArguments where
  table : String
  image : String
  platform : Platform
  output : Output

/-- The arguments for checking customizations; the policy is that of the profile, if there is
one. -/
structure CheckArguments where
  customizations : String
  profile? : Option String

/-- The arguments for validating a document. -/
structure ValidateArguments where
  path : String
  kind : DocumentKind

/-- A command with its arguments. -/
inductive Command where
  | build (arguments : BuildArguments)
  | custom (arguments : CustomArguments)
  | flatten (arguments : FlattenArguments)
  | check (arguments : CheckArguments)
  | validate (arguments : ValidateArguments)

/-- The names of commands. -/
inductive CommandName where
  | build
  | custom
  | flatten
  | check
  | validate
deriving DecidableEq, Repr

namespace CommandName

/-- The names of all commands. -/
def all : List CommandName := [build, custom, flatten, check, validate]

/-- The name as it is written. -/
def toText : CommandName → String
  | build => "build"
  | custom => "custom"
  | flatten => "flatten"
  | check => "check"
  | validate => "validate"

/-- The command name that a text is. -/
def ofText? (text : String) : Option CommandName := all.find? fun name => name.toText == text

end CommandName

/-- The name of a command. -/
def Command.name : Command → CommandName
  | build _ => .build
  | custom _ => .custom
  | flatten _ => .flatten
  | check _ => .check
  | validate _ => .validate

/-- A command with what every command takes. -/
structure Invocation where
  verbosity : Verbosity
  /-- The file that takes all records, as one JSON object a line. -/
  logFile? : Option String
  command : Command

end DiskLayout
