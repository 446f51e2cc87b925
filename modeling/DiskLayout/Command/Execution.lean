import DiskLayout.Allocation.Image
import DiskLayout.Command.Basic
import DiskLayout.Command.Loading
import DiskLayout.Document.Flattened
import DiskLayout.Random.Seed

/-!
# Carrying out commands

A command is carried out in two halves.  The first loads documents and computes, and leaves at
most one text to be written.  The second depends on whether that text could be written.

## Main definitions

* `Surroundings` — what a command finds around it
* `Command.inputs` — the paths that a command may read
* `Printout` — a text that is left to be written, and where
* `Command.perform` — the first half, `Command.finish` — the second half
* `Command.opening`, `Command.records`, `Command.journal` — what the run of a command reports
* `Command.exitCode` — what it shows in the end
-/

namespace DiskLayout

/-- What a command finds around it. -/
structure Surroundings where
  files : Files
  /-- The value of the variable for seeds, if it is set. -/
  seedVariable? : Option String
  /-- The seed that counts where none is given. -/
  randomSeed : Nat

namespace Surroundings

/-- The source of random values with the seed that counts. -/
def source (around : Surroundings) (explicit : Option Nat) : Logged Report RandomSource := do
  let seed ← (Seed.choose explicit around.seedVariable? around.randomSeed).mapError Report.config
  return RandomSource.ofSeed seed

end Surroundings

/-- A text that is left to be written, to the file at a path or to the standard output. -/
structure Printout where
  path? : Option String
  text : String
deriving DecidableEq, Repr

namespace Printout

/-- The printout of a document. -/
def ofDocument (output : Output) (document : Value) : Printout :=
  ⟨output.path?, output.format.render document⟩

/-- What follows once a printout has or has not been written. -/
def conclude (printout : Printout) (written : Bool) : Logged Report Unit :=
  match printout.path?, written with
  | some path, true => Logged.note .debug LoadingRule.target ("Wrote output to '" ++ path ++ "'")
  | some path, false =>
    throw ((Report.internal (.writeOutput path)).within "Failed to write output file")
  | none, true => pure ()
  | none, false => throw (Report.internal (.writeOutput "<stdout>"))

end Printout

namespace Logged

/-- A check whose layout error becomes a report with a context. -/
def check {α : Type} (context : String) (outcome : Except LayoutError α) : Logged Report α :=
  (ofExcept outcome).within context

end Logged

/-- Builds the table of an image. -/
def BuildArguments.perform (arguments : BuildArguments) (around : Surroundings) :
    Logged Report Printout := do
  let profile ← ImageProfile.load around.files arguments.profile
  let customizations ← match arguments.customizations? with
    | some path => Customizations.load around.files path
    | none => pure Customizations.nothing
  let source ← around.source arguments.seed?
  let table ← (profile.buildTable customizations source).1
  return .ofDocument arguments.output table.encode

/-- Builds a custom table, which only the standard policy restricts. -/
def CustomArguments.perform (arguments : CustomArguments) (around : Surroundings) :
    Logged Report Printout := do
  let customizations ← Customizations.load around.files arguments.customizations
  match customizations.partitioning with
  | none =>
    throw ((Report.config .missingPartitioning).within
      "The custom command needs a partitioning section")
  | some request =>
    Logged.check "Partitioning customizations violate the mountpoint policy"
      (MountPolicy.standard.checkPartitioning request)
    let source ← around.source arguments.seed?
    let options : CustomOptions :=
      ⟨arguments.platform, arguments.tableKind, arguments.defaultFilesystem, none⟩
    let table ← (buildCustom request options source).1.within
      "Failed to create partition table from partitioning customizations"
    return .ofDocument arguments.output table.encode

/-- Flattens a valid table. -/
def FlattenArguments.perform (arguments : FlattenArguments) (around : Surroundings) :
    Logged Report Printout := do
  let table ← PartitionTable.load around.files arguments.table
  table.validate.within "Partition table is invalid"
  let layout ← (PartitionTable.flatten arguments.image table arguments.platform).within
    "Failed to flatten partition table"
  return .ofDocument arguments.output layout.encode

/-- Checks customizations against the policy of a profile or the standard policy. -/
def CheckArguments.perform (arguments : CheckArguments) (around : Surroundings) :
    Logged Report Unit := do
  let customizations ← Customizations.load around.files arguments.customizations
  let policy ← match arguments.profile? with
    | some path => ImageProfile.policy <$> ImageProfile.load around.files path
    | none => pure MountPolicy.standard
  Logged.check "Customizations failed the policy check" (customizations.checkAgainst policy)
  Logged.note .info ImageProfile.commandTarget "Customizations passed the policy check"

/-- Checks a document on its own. -/
def ValidateArguments.perform (arguments : ValidateArguments) (around : Surroundings) :
    Logged Report Unit := do
  match arguments.kind with
  | .table =>
    let table ← PartitionTable.load around.files arguments.path
    table.validate.within "Partition table is invalid"
  | .profile =>
    let _ ← ImageProfile.load around.files arguments.path
  | .customizations =>
    let customizations ← Customizations.load around.files arguments.path
    Logged.check "Customizations are invalid" customizations.validate
  Logged.note .info ImageProfile.commandTarget ("'" ++ arguments.path ++ "' is valid")

namespace Command

/-- The paths that a command may read. -/
def inputs : Command → List String
  | build arguments => arguments.profile :: arguments.customizations?.toList
  | custom arguments => [arguments.customizations]
  | flatten arguments => [arguments.table]
  | check arguments => arguments.customizations :: arguments.profile?.toList
  | validate arguments => [arguments.path]

/-- Carries out a command but for the writing. -/
def perform (command : Command) (around : Surroundings) : Logged Report (Option Printout) :=
  match command with
  | build arguments => some <$> arguments.perform around
  | custom arguments => some <$> arguments.perform around
  | flatten arguments => some <$> arguments.perform around
  | check arguments => (fun _ => none) <$> arguments.perform around
  | validate arguments => (fun _ => none) <$> arguments.perform around

/-- What is left to be written after the first half. -/
def printout? (performed : Logged Report (Option Printout)) : Option Printout :=
  performed.result.toOption.join

/-- Completes a command, given whether what was left has been written. -/
def finish (performed : Logged Report (Option Printout)) (written : Bool) : Logged Report Unit := do
  match ← performed with
  | some printout => printout.conclude written
  | none => pure ()

/-- The version that a run announces. -/
def version : String := "0.1.0"

/-- The part of the program that reports how a run begins and ends. -/
def target : String := "diskplan"

/-- The record with which every run begins: the version. -/
def opening : Record := ⟨.info, target, "diskplan version: " ++ version⟩

/-- The record with which the run of a command ends if it fails. -/
def failure (command : Command) (report : Report) : Record :=
  let report := report.within ("Failed to execute '" ++ command.name.toText ++ "' command")
  ⟨.error, target, "diskplan failed: " ++ "\n".intercalate report.lines⟩

/-- The records of the run of a command behind the opening one; the failure, if there is one, is
the last. -/
def records (command : Command) (finished : Logged Report Unit) : List Record :=
  match finished.result with
  | .ok () => finished.log
  | .error report => finished.log ++ [command.failure report]

/-- All records of the run of a command. -/
def journal (command : Command) (finished : Logged Report Unit) : List Record :=
  opening :: command.records finished

/-- The exit code of the run of a command. -/
def exitCode (finished : Logged Report Unit) : Nat :=
  match finished.result with
  | .ok () => 0
  | .error _ => 2

end Command

end DiskLayout
