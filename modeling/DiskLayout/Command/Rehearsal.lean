import DiskLayout.Command.Directory
import DiskLayout.Command.Execution
import DiskLayout.Document.Json.Printer
import DiskLayout.Log.Sink

/-!
# Rehearsing commands

The whole run of a command or of the program, with a directory as a value in place of the disk.
Nothing is printed: what would be shown is part of the result.

## Main definitions

* `Command.rehearse` — the run of a command in a directory
* `Invocation.rehearse` — the run of the program in a directory
-/

namespace DiskLayout

/-- What the run of a command leaves behind. -/
structure Aftermath where
  finished : Logged Report Unit
  directory : Directory
  /-- The text on the standard output. -/
  printed : String

namespace Command

/-- A command whose output, if it names no path, goes to a path. -/
def redirect (path : String) : Command → Command
  | build arguments => build { arguments with output := arguments.output.redirect path }
  | custom arguments => custom { arguments with output := arguments.output.redirect path }
  | flatten arguments => flatten { arguments with output := arguments.output.redirect path }
  | check arguments => check arguments
  | validate arguments => validate arguments

/-- Carries out a command in a directory. -/
def rehearse (command : Command) (directory : Directory) (seedVariable? : Option String)
    (randomSeed : Nat) : Aftermath :=
  let performed := command.perform ⟨directory.text?, seedVariable?, randomSeed⟩
  match printout? performed with
  | none => ⟨finish performed true, directory, ""⟩
  | some ⟨none, text⟩ => ⟨finish performed true, directory, text⟩
  | some ⟨some path, text⟩ =>
    match directory.write? path text with
    | some after => ⟨finish performed true, after, ""⟩
    | none => ⟨finish performed false, directory, ""⟩

end Command

/-- What the run of the program shows and leaves behind. -/
structure ProgramRun where
  exitCode : Nat
  printed : String
  /-- The lines on the standard error. -/
  complaints : List String
  directory : Directory
  /-- The log file, if there is one, by its canonical path, and the records in it. -/
  log? : Option (String × List Record)

namespace Invocation

/-- The lines where the log file cannot be made. -/
def logFailure (path : String) : List String :=
  ("Failed to initialize logging: Failed to create log file '" ++ path ++ "'").splitOn "\n"

/-- What the log file holds when a command starts, apart from the time. -/
def logStart : String :=
  Json.compact (.mapping (Located.nowhere Command.opening).entries) ++ "\n"

/-- The run of the program once its log file, if there is one, has been made. -/
def rehearsePrepared (invocation : Invocation) (logPath? : Option String) (prepared : Directory)
    (seedVariable? : Option String) (randomSeed : Nat) : ProgramRun :=
  let aftermath := invocation.command.rehearse prepared seedVariable? randomSeed
  let journal := invocation.command.journal aftermath.finished
  let sink := Sink.standardError invocation.verbosity
  { exitCode := Command.exitCode aftermath.finished
    printed := aftermath.printed
    complaints := (journal.filter fun record => sink.accepts record.level).flatMap Record.textLines
    directory := aftermath.directory
    log? := logPath?.map fun path => (path, journal) }

/-- The run of the program in a directory.  The log file is begun first, so a command that reads
it finds what stands in it by then. -/
def rehearse (invocation : Invocation) (directory : Directory) (seedVariable? : Option String)
    (randomSeed : Nat) : ProgramRun :=
  match invocation.logFile? with
  | none => invocation.rehearsePrepared none directory seedVariable? randomSeed
  | some path =>
    match directory.write? path logStart with
    | some prepared =>
      invocation.rehearsePrepared ((directory.locate? path).map Directory.pathOf) prepared
        seedVariable? randomSeed
    | none => ⟨1, "", logFailure path, directory, none⟩

end Invocation

end DiskLayout
