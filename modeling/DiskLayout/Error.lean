import DiskLayout.Text.Blank

/-!
# Errors

Three families of errors: a layout that is impossible or forbidden, an input document that cannot
be used, and a failure of the surroundings.  Layout errors may be collected, so that independent
problems are reported together.

## Main definitions

* `LayoutError`, `ConfigError`, `InternalError` — the three families
* `LayoutError.message`, `LayoutError.leaves` — wording, and the errors inside a collection
* `LayoutError.collect` — many errors as one
* `ErrorKind` — an error of any family
* `Report` — an error with the contexts attached on its way out
-/

namespace DiskLayout

/-- Why a disk layout cannot be built, checked or flattened. -/
inductive LayoutError where
  /-- A mountpoint is empty, relative, not canonical, or on a device that cannot hold it. -/
  | invalidMountpoint (text : String)
  /-- A mountpoint or the name of a volume is repeated. -/
  | duplicateName (text : String)
  /-- Partitioning modes or numbers of containers exclude each other. -/
  | unsupportedCombination (text : String)
  /-- A mountpoint is not allowed by the policy. -/
  | policyViolation (text : String)
  /-- Mountpoints that booting needs are absent. -/
  | missingRequiredMount (missing : List String)
  /-- A payload cannot be handled where it stands. -/
  | unsupportedPayload (text : String)
  /-- The table itself is malformed. -/
  | invalidTable (text : String)
  /-- Several independent problems. -/
  | multiple (errors : List LayoutError)
deriving Repr

namespace LayoutError

mutual

/-- The wording of a layout error; the parts of a collection stand on lines of their own. -/
def message : LayoutError → String
  | invalidMountpoint text => text
  | duplicateName text => text
  | unsupportedCombination text => text
  | policyViolation text => text
  | missingRequiredMount missing =>
    "required mounts for boot configuration [" ++ " ".intercalate missing ++ "] missing"
  | unsupportedPayload text => text
  | invalidTable text => text
  | multiple errors => "\n".intercalate (messages errors)

/-- The wordings of a list of layout errors. -/
def messages : List LayoutError → List String
  | [] => []
  | error :: others => error.message :: messages others

end

mutual

/-- The errors inside a layout error that are no collections, in order. -/
def leaves : LayoutError → List LayoutError
  | multiple errors => leavesOfList errors
  | error => [error]

/-- The errors inside a list of layout errors that are no collections, in order. -/
def leavesOfList : List LayoutError → List LayoutError
  | [] => []
  | error :: others => error.leaves ++ leavesOfList others

end

/-- Many errors as one: none for none, a single error as it is, several as a collection. -/
def collect : List LayoutError → Option LayoutError
  | [] => none
  | [error] => some error
  | errors => some (multiple errors)

/-- Fails with all of the errors together, if there are any. -/
def check (errors : List LayoutError) : Except LayoutError Unit :=
  match collect errors with
  | some error => .error error
  | none => .ok ()

/-- The error of a failed check. -/
def ofCheck : Except LayoutError Unit → Option LayoutError
  | .error error => some error
  | .ok _ => none

/-- The word that documents use for the kind of a layout error. -/
def tag : LayoutError → String
  | invalidMountpoint _ => "invalid-mountpoint"
  | duplicateName _ => "duplicate-name"
  | unsupportedCombination _ => "unsupported-combination"
  | policyViolation _ => "policy-violation"
  | missingRequiredMount _ => "missing-required-mount"
  | unsupportedPayload _ => "unsupported-payload"
  | invalidTable _ => "invalid-table"
  | multiple _ => "multiple"

end LayoutError

/-- Why an input document cannot be used. -/
inductive ConfigError where
  | loadProfile (path : String)
  | parseProfile
  | invalidProfile (text : String)
  | loadCustomizations (path : String)
  | parseCustomizations
  | missingPartitioning
  | loadPartitionTable (path : String)
  | parsePartitionTable
  | invalidSeed (value : String)
deriving DecidableEq, Repr

namespace ConfigError

/-- The wording of a configuration error. -/
def message : ConfigError → String
  | loadProfile path => s!"Failed to load image profile from '{path}'"
  | parseProfile => "Failed to parse image profile"
  | invalidProfile text => s!"Invalid image profile: {text}"
  | loadCustomizations path => s!"Failed to load customizations from '{path}'"
  | parseCustomizations => "Failed to parse customizations"
  | missingPartitioning => "Customizations have no partitioning section"
  | loadPartitionTable path => s!"Failed to load partition table from '{path}'"
  | parsePartitionTable => "Failed to parse partition table"
  | invalidSeed value => s!"Invalid random seed '{value}'"

/-- The word that documents use for a configuration error. -/
def tag : ConfigError → String
  | loadProfile _ => "load-profile"
  | parseProfile => "parse-profile"
  | invalidProfile _ => "invalid-profile"
  | loadCustomizations _ => "load-customizations"
  | parseCustomizations => "parse-customizations"
  | missingPartitioning => "missing-partitioning"
  | loadPartitionTable _ => "load-partition-table"
  | parsePartitionTable => "parse-partition-table"
  | invalidSeed _ => "invalid-seed"

end ConfigError

/-- A failure of the surroundings rather than of the input. -/
inductive InternalError where
  | internal (text : String)
  | serializeOutput
  | writeOutput (path : String)
deriving DecidableEq, Repr

namespace InternalError

/-- The wording of an internal error. -/
def message : InternalError → String
  | internal text => s!"Internal error: {text}"
  | serializeOutput => "Failed to serialize output"
  | writeOutput path => s!"Failed to write output to '{path}'"

/-- The word that documents use for an internal error. -/
def tag : InternalError → String
  | internal _ => "internal"
  | serializeOutput => "serialize-output"
  | writeOutput _ => "write-output"

end InternalError

/-- An error of any family. -/
inductive ErrorKind where
  | layout (error : LayoutError)
  | config (error : ConfigError)
  | internal (error : InternalError)
deriving Repr

namespace ErrorKind

/-- The wording of an error. -/
def message : ErrorKind → String
  | layout error => error.message
  | config error => error.message
  | internal error => error.message

/-- The word that documents use for an error. -/
def tag : ErrorKind → String
  | layout error => error.tag
  | config error => error.tag
  | internal error => error.tag

/-- The word for the family of an error. -/
def category : ErrorKind → String
  | layout _ => "layout"
  | config _ => "config"
  | internal _ => "internal"

end ErrorKind

/-- An error on its way out, with the contexts attached to it, the innermost first. -/
structure Report where
  kind : ErrorKind
  contexts : List String
deriving Repr

namespace Report

/-- A layout error without context. -/
def layout (error : LayoutError) : Report := ⟨.layout error, []⟩

/-- A configuration error without context. -/
def config (error : ConfigError) : Report := ⟨.config error, []⟩

/-- An internal error without context. -/
def internal (error : InternalError) : Report := ⟨.internal error, []⟩

/-- A report with one more context, outermost. -/
def within (context : String) (report : Report) : Report :=
  { report with contexts := report.contexts ++ [context] }

/-- Lines without the blank ones, the last line apart. -/
def dropBlank : List String → List String
  | [] => []
  | [last] => [last]
  | line :: next :: others =>
    if (Blank.trim line.toList).isEmpty then dropBlank (next :: others)
    else line :: dropBlank (next :: others)

/-- The lines of a context: its number on the first, the others indented to match. -/
def contextLines (number : Nat) (context : String) : List String :=
  let label := toString number
  let padding := String.ofList (List.replicate (5 - label.length) ' ')
  match context.splitOn "\n" with
  | [] => []
  | first :: others =>
    dropBlank ((padding ++ label ++ ": " ++ first) :: others.map ("       " ++ ·))

/-- The lines of all contexts, numbered from `number`. -/
def contextsLines (number : Nat) : List String → List String
  | [] => []
  | context :: others => contextLines number context ++ contextsLines (number + 1) others

/-- The lines of a report: the message, then the contexts if there are any.  Blank lines inside
the message or a context are left out. -/
def lines (report : Report) : List String :=
  let contexts :=
    if report.contexts = [] then [] else "Context:" :: contextsLines 0 report.contexts
  dropBlank (report.kind.message.splitOn "\n") ++ contexts

end Report

end DiskLayout
