import DiskLayout.Command.Basic
import DiskLayout.Random.Seed

/-!
# Command line arguments

An invocation is given as a list of arguments.  Options stand before or behind the name of the
command and its operand; their values follow in the next argument, behind an equals sign, or, for
options of one letter, right behind the letter.  Behind `--` there are only operands.

An option is judged when it is complete, which shows only when the next argument is taken in, so
of two faults the one in the later argument may be reported.

## Main definitions

* `UsageError` — why arguments are no invocation
* `OptionName` — the options, `OptionName.accepts` — the values that they take
* `Scan` — the arguments taken in so far
* `Invocation.ofArguments` — the invocation that arguments spell
-/

namespace DiskLayout

/-- Why arguments are no invocation.  Asking for help or for the version is one reason. -/
inductive UsageError where
  | helpRequested
  | versionRequested
  /-- There are no arguments at all. -/
  | nothingGiven
  /-- There are options but no command. -/
  | missingCommand
  | unknownCommand
  | unknownArgument
  /-- The operand of a command is missing. -/
  | missingOperand
  /-- A value is missing, empty where it may not be, or none of the possible ones. -/
  | invalidValue
  /-- A value has the wrong form. -/
  | malformedValue
  /-- An option that takes no value has one. -/
  | unneededValue
  | repeatedOption
deriving DecidableEq, Repr

namespace UsageError

/-- Whether an answer to a request rather than a failure. -/
def isRequest : UsageError → Bool
  | helpRequested | versionRequested => true
  | _ => false

end UsageError

/-- The options of all commands. -/
inductive OptionName where
  | verbosity
  | logFile
  | help
  | version
  | customizations
  | profile
  | seed
  | output
  | format
  | bootMode
  | uefiVendor
  | tableType
  | architecture
  | filesystemType
  | image
  | kind
deriving DecidableEq, Repr

/-- The architectures by the names that options give them. -/
def Architecture.ofOption? : String → Option Architecture
  | "amd64" => some .amd64
  | "aarch64" => some .aarch64
  | _ => none

/-- The filesystem types that may be the default of a custom table. -/
def FilesystemType.ofOption? (text : String) : Option FilesystemType :=
  [.xfs, .ext4].find? fun type => type.name == text

namespace OptionName

/-- The long name of an option. -/
def long : OptionName → String
  | verbosity => "verbosity"
  | logFile => "log-file"
  | help => "help"
  | version => "version"
  | customizations => "customizations"
  | profile => "profile"
  | seed => "seed"
  | output => "output"
  | format => "format"
  | bootMode => "boot-mode"
  | uefiVendor => "uefi-vendor"
  | tableType => "table-type"
  | architecture => "arch"
  | filesystemType => "fs-type"
  | image => "image"
  | kind => "kind"

/-- The letter of an option, if it has one. -/
def letter? : OptionName → Option Char
  | verbosity => some 'v'
  | help => some 'h'
  | version => some 'V'
  | customizations => some 'c'
  | profile => some 'p'
  | output => some 'o'
  | _ => none

/-- The error that an option without value stands for. -/
def request? : OptionName → Option UsageError
  | help => some .helpRequested
  | version => some .versionRequested
  | _ => none

/-- The options of a command, or of what stands before the command. -/
def inScope : Option CommandName → List OptionName
  | none => [verbosity, logFile, help, version]
  | some .build => [customizations, seed, output, format, verbosity, logFile, help]
  | some .custom =>
    [bootMode, uefiVendor, tableType, architecture, filesystemType, seed, output, format,
      verbosity, logFile, help]
  | some .flatten => [image, bootMode, uefiVendor, output, format, verbosity, logFile, help]
  | some .check => [profile, verbosity, logFile, help]
  | some .validate => [kind, verbosity, logFile, help]

/-- The error unless a condition holds. -/
def require (condition : Bool) (error : UsageError) : Except UsageError Unit :=
  if condition then .ok () else .error error

/-- Checks a value of an option. -/
def accepts (name : OptionName) (value : String) : Except UsageError Unit :=
  match name with
  | verbosity => require (Verbosity.ofName? value).isSome .malformedValue
  | seed => require (Seed.parse? value).isSome .malformedValue
  | logFile | customizations | profile | output => require (value ≠ "") .invalidValue
  | format => require (DocumentFormat.ofName? value).isSome .invalidValue
  | bootMode => require (BootMode.ofName? value).isSome .invalidValue
  | tableType => require (TableKind.ofName? value).isSome .invalidValue
  | architecture => require (Architecture.ofOption? value).isSome .invalidValue
  | filesystemType => require (FilesystemType.ofOption? value).isSome .invalidValue
  | kind => require (DocumentKind.ofName? value).isSome .invalidValue
  | uefiVendor | image | help | version => .ok ()

end OptionName

/-- What a value is given for. -/
inductive Slot where
  | option (name : OptionName)
  | operand
deriving DecidableEq, Repr

namespace Slot

/-- Checks a value; the operand is a path, which may not be empty. -/
def accepts (slot : Slot) (value : String) : Except UsageError Unit :=
  match slot with
  | option name => name.accepts value
  | operand => OptionName.require (value ≠ "") .invalidValue

end Slot

/-- What was given for the slots. -/
abbrev Given := List (Slot × String)

namespace Given

/-- What was given for a slot. -/
def value? (given : Given) (slot : Slot) : Option String :=
  (given.find? fun entry => entry.1 == slot).map Prod.snd

/-- What was given for an option, read. -/
def read? {α : Type} (given : Given) (name : OptionName) (read : String → Option α) : Option α :=
  (given.value? (.option name)).bind read

/-- What was given for an option that is a text. -/
def text? (given : Given) (name : OptionName) : Option String := given.value? (.option name)

end Given

/-- The arguments taken in so far, before the command or behind it. -/
structure Scan where
  scope : Option CommandName
  given : Given
  /-- What was given last and has not been judged; its value may be still to come. -/
  pending? : Option (Slot × Option String)
  /-- Whether there are only operands left. -/
  onlyOperands : Bool
  operandSeen : Bool

namespace Scan

/-- No arguments taken in. -/
def start (scope : Option CommandName) : Scan := ⟨scope, [], none, false, false⟩

/-- The option whose value is to come. -/
def isWaiting (scan : Scan) : Bool :=
  match scan.pending? with
  | some (_, none) => true
  | _ => false

/-- Judges what was given last. -/
def settle (scan : Scan) : Except UsageError Scan :=
  match scan.pending? with
  | none => .ok scan
  | some (_, none) => .error .invalidValue
  | some (slot, some value) =>
    if (scan.given.value? slot).isSome then .error .repeatedOption
    else do
      slot.accepts value
      return { scan with given := (slot, value) :: scan.given, pending? := none }

/-- Takes in something with its value, or whose value is to come. -/
def give (slot : Slot) (value? : Option String) (scan : Scan) : Except UsageError Scan := do
  let scan ← scan.settle
  return { scan with pending? := some (slot, value?) }

/-- Takes in an option with the value attached to it, if one is. -/
def giveOption (name : OptionName) (attached? : Option String) (scan : Scan) :
    Except UsageError Scan :=
  match name.request?, attached? with
  | some request, none => do
    let _ ← scan.settle
    throw request
  | some _, some _ => throw .unneededValue
  | none, none => scan.give (.option name) none
  | none, some value => do
    let scan ← scan.give (.option name) (some value)
    scan.settle

/-- The option in a scope with a property. -/
def find? (scan : Scan) (property : OptionName → Bool) : Option OptionName :=
  (OptionName.inScope scan.scope).find? property

/-- Takes in an option by its long name. -/
def takeLong (argument : List Char) (scan : Scan) : Except UsageError Scan :=
  let name := String.ofList (argument.takeWhile (· ≠ '='))
  let attached? :=
    match argument.dropWhile (· ≠ '=') with
    | _ :: value => some (String.ofList value)
    | [] => none
  match scan.find? fun option => option.long == name with
  | some option => scan.giveOption option attached?
  | none => throw .unknownArgument

/-- Takes in an option by its letter, which stands in front of the rest of the argument. -/
def takeLetter (letter : Char) (rest : List Char) (scan : Scan) : Except UsageError Scan :=
  match scan.find? fun option => option.letter? == some letter with
  | none => throw .unknownArgument
  | some option =>
    if option.request?.isSome then scan.giveOption option none
    else
      match rest with
      | [] => scan.giveOption option none
      | '=' :: value => scan.giveOption option (some (String.ofList value))
      | value => scan.giveOption option (some (String.ofList value))

/-- Takes in an argument that is neither an option nor the value of one. -/
def takeOperand (argument : String) (scan : Scan) : Except UsageError Scan :=
  match scan.scope with
  | some _ =>
    if scan.operandSeen then throw .unknownArgument
    else do
      let scan ← scan.give .operand (some argument)
      return { scan with operandSeen := true }
  | none =>
    let isName := (CommandName.ofText? argument).isSome || argument == "help"
    if scan.onlyOperands && isName then throw .unknownArgument else throw .unknownCommand

/-- Takes in an argument that is no command. -/
def take (argument : String) (scan : Scan) : Except UsageError Scan :=
  if scan.onlyOperands then scan.takeOperand argument
  else
    match argument.toList with
    | ['-', '-'] => .ok { scan with onlyOperands := true }
    | '-' :: '-' :: name => scan.takeLong name
    | '-' :: letter :: rest => scan.takeLetter letter rest
    | _ =>
      match scan.pending? with
      | some (slot, none) => .ok { scan with pending? := some (slot, some argument) }
      | _ => scan.takeOperand argument

/-- Takes in the arguments behind a command. -/
def takeAll (scan : Scan) (arguments : List String) : Except UsageError Scan :=
  arguments.foldlM (fun scan argument => scan.take argument) scan

end Scan

/-- The error that asking for help about something ends with. -/
def helpAbout : List String → UsageError
  | [] => .helpRequested
  | [topic] =>
    if (CommandName.ofText? topic).isSome || topic == "help" then .helpRequested
    else .unknownCommand
  | _ => .unknownCommand

namespace Command

/-- Where and how a result is written, given the format that counts where none is given. -/
def outputOf (given : Given) (format : DocumentFormat) : Output where
  path? := given.text? .output
  format := (given.read? .format DocumentFormat.ofName?).getD format

/-- The platform that options describe. -/
def platformOf (given : Given) : Platform where
  architecture := (given.read? .architecture Architecture.ofOption?).getD .amd64
  bootMode := (given.read? .bootMode BootMode.ofName?).getD .hybrid
  uefiVendor := given.text? .uefiVendor

/-- The command with an operand and options. -/
def ofGiven (name : CommandName) (operand : String) (given : Given) : Command :=
  match name with
  | .build => .build {
      profile := operand
      customizations? := given.text? .customizations
      seed? := given.read? .seed Seed.parse?
      output := outputOf given .yaml }
  | .custom => .custom {
      customizations := operand
      platform := platformOf given
      tableKind := (given.read? .tableType TableKind.ofName?).getD .gpt
      defaultFilesystem := (given.read? .filesystemType FilesystemType.ofOption?).getD .xfs
      seed? := given.read? .seed Seed.parse?
      output := outputOf given .yaml }
  | .flatten => .flatten {
      table := operand
      image := (given.text? .image).getD "disk.raw"
      platform := platformOf given
      output := outputOf given .json }
  | .check => .check { customizations := operand, profile? := given.text? .profile }
  | .validate => .validate {
      path := operand
      kind := (given.read? .kind DocumentKind.ofName?).getD .table }

end Command

namespace Invocation

/-- The invocation that a command and the options before and behind it spell.  Of an option that
every command takes, the one behind the command counts. -/
def ofGiven (before : Given) (name : CommandName) (operand : String) (behind : Given) :
    Invocation where
  verbosity :=
    ((behind.read? .verbosity Verbosity.ofName?).orElse fun _ =>
      before.read? .verbosity Verbosity.ofName?).getD (.upTo .info)
  logFile? := (behind.text? .logFile).orElse fun _ => before.text? .logFile
  command := Command.ofGiven name operand behind

/-- The invocation of a command, given the options before it and the arguments behind it. -/
def ofCommand (before : Scan) (name : CommandName) (arguments : List String) :
    Except UsageError Invocation := do
  let behind ← (← (Scan.start (some name)).takeAll arguments).settle
  match behind.given.value? .operand with
  | none => throw .missingOperand
  | some operand =>
    let before ← before.settle
    return ofGiven before.given name operand behind.given

/-- The error where there is no command. -/
def withoutCommand (before : Scan) : Except UsageError Invocation := do
  let before ← before.settle
  throw (if before.given.isEmpty then .nothingGiven else .missingCommand)

/-- The invocation that arguments spell, given those taken in before. -/
def ofRest (before : Scan) : (arguments : List String) → Except UsageError Invocation
  | [] => withoutCommand before
  | argument :: arguments =>
    let proceed : Except UsageError Invocation := do
      let before ← before.take argument
      ofRest before arguments
    if before.onlyOperands || before.isWaiting then proceed
    else if argument = "help" then throw (helpAbout arguments)
    else
      match CommandName.ofText? argument with
      | some name => ofCommand before name arguments
      | none => proceed

/-- The invocation that arguments spell. -/
def ofArguments (arguments : List String) : Except UsageError Invocation :=
  ofRest (Scan.start none) arguments

end Invocation

end DiskLayout
