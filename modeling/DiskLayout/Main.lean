import DiskLayout.Command.Arguments
import DiskLayout.Command.Rehearsal
import DiskLayout.Document.Json.Printer
import Std.Time

/-!
# The command line

The outermost layer: it reads the files that a command names, writes what the command leaves, and
sends the records of the run to the standard error and, if asked, to a log file.

## Main definitions

* `main` — the program
-/

namespace DiskLayout.Program

/-- What is printed where arguments are no invocation. -/
def usage : String := "\n".intercalate [
  "Usage: diskplan [OPTIONS] COMMAND",
  "",
  "Commands:",
  "  build PROFILE          build the partition table of an image",
  "  custom CUSTOMIZATIONS  build a table from a partitioning section alone",
  "  flatten TABLE          list the mounts and devices of a table",
  "  check CUSTOMIZATIONS   check customizations against a mountpoint policy",
  "  validate PATH          check a document on its own",
  "",
  "Options:",
  "  -v, --verbosity LEVEL  off, error, warn, info, debug or trace",
  "      --log-file PATH    also write all records to a file",
  "  -h, --help             print this text",
  "  -V, --version          print the version",
  "",
  "  build:    -c, --customizations PATH; --seed NUMBER; -o, --output PATH;",
  "            --format yaml or json",
  "  custom:   --boot-mode none, legacy, uefi or hybrid; --uefi-vendor NAME;",
  "            --table-type gpt or dos; --arch amd64 or aarch64;",
  "            --fs-type xfs or ext4; --seed NUMBER; -o, --output PATH; --format",
  "  flatten:  --image NAME; --boot-mode; --uefi-vendor; -o, --output PATH; --format",
  "  check:    -p, --profile PATH",
  "  validate: --kind table, profile or customizations",
  ""]

/-- What is printed for arguments that are no invocation. -/
def usageText : UsageError → String
  | .helpRequested => usage
  | .versionRequested => "diskplan " ++ Command.version ++ "\n"
  | .nothingGiven => usage
  | .missingCommand => "error: a command is required\n\n" ++ usage
  | .unknownCommand => "error: unknown command\n\n" ++ usage
  | .unknownArgument => "error: unexpected argument\n\n" ++ usage
  | .missingOperand => "error: the operand of the command is missing\n\n" ++ usage
  | .invalidValue => "error: an option has an invalid value\n\n" ++ usage
  | .malformedValue => "error: an option has a malformed value\n\n" ++ usage
  | .unneededValue => "error: an option takes no value\n\n" ++ usage
  | .repeatedOption => "error: an option is repeated\n\n" ++ usage

/-- Whether an action succeeds. -/
def succeeds (action : IO Unit) : IO Bool := do
  try
    action
    return true
  catch _ => return false

/-- The text of the file at a path, if it can be read. -/
def readText (path : String) : IO (Option String) := do
  try
    return some (← IO.FS.readFile path)
  catch _ => return none

/-- A number that differs from run to run. -/
def randomSeed : IO Nat := do
  let bytes ← IO.getRandomBytes 8
  return bytes.toList.foldl (fun number byte => number * 256 + byte.toNat) 0

/-- Writes a printout. -/
def write (printout : Printout) : IO Bool :=
  match printout.path? with
  | some path => succeeds (IO.FS.writeFile path printout.text)
  | none => succeeds do
    let output ← IO.getStdout
    output.putStr printout.text
    output.flush

/-- The decimal digits of a number, with zeros in front up to a width. -/
def padded (width : Nat) (number : Int) : String :=
  let digits := toString number
  String.ofList (List.replicate (width - digits.length) '0') ++ digits

/-- A point in coordinated universal time, down to nanoseconds. -/
def timeText (time : Std.Time.PlainDateTime) : String :=
  "-".intercalate [padded 4 time.year.toInt, padded 2 time.month.val, padded 2 time.day.val] ++
    "T" ++ ":".intercalate [padded 2 time.hour.val, padded 2 time.minute.val,
      padded 2 time.second.val] ++ "." ++ padded 9 time.nanosecond.val ++ "Z"

/-- The present time in coordinated universal time. -/
def timestamp : IO String := do
  let now ← Std.Time.Timestamp.now
  return timeText (.ofWallTime (.ofDuration now.toDurationSinceUnixEpoch))

/-- Sends a record to the standard error and to the log file, as far as their sinks take it. -/
def send (verbosity : Verbosity) (log? : Option IO.FS.Handle) (record : Record) : IO Unit := do
  if (Sink.standardError verbosity).accepts record.level then
    let output ← IO.getStderr
    for line in record.textLines do
      output.putStrLn line
  match log? with
  | none => return
  | some log =>
    let entries := ("timestamp", Value.text (← timestamp)) :: (Located.nowhere record).entries
    let _ ← succeeds do
      log.putStr (Json.compact (.mapping entries) ++ "\n")
      log.flush

/-- Runs an invocation and gives the exit code. -/
def run (invocation : Invocation) (log? : Option IO.FS.Handle) : IO Nat := do
  let command := invocation.command
  send invocation.verbosity log? Command.opening
  let texts ← command.inputs.mapM fun path => return (path, ← readText path)
  let around : Surroundings := {
    files := fun path => (TextMap.lookup path texts).join
    seedVariable? := ← IO.getEnv Seed.variableName
    randomSeed := ← randomSeed }
  let performed := command.perform around
  let written ← match Command.printout? performed with
    | some printout => write printout
    | none => pure true
  let finished := Command.finish performed written
  for record in command.records finished do
    send invocation.verbosity log? record
  return Command.exitCode finished

end DiskLayout.Program

open DiskLayout in
/-- Runs the program with its arguments and gives the exit code. -/
def main (arguments : List String) : IO UInt32 := do
  match Invocation.ofArguments arguments with
  | .error error =>
    let output ← if error.isRequest then IO.getStdout else IO.getStderr
    output.putStr (Program.usageText error)
    return if error.isRequest then 0 else 2
  | .ok invocation =>
    match invocation.logFile? with
    | none => return (← Program.run invocation none).toUInt32
    | some path =>
      let log? ← try some <$> IO.FS.Handle.mk path .write catch _ => pure none
      match log? with
      | none =>
        let output ← IO.getStderr
        for line in Invocation.logFailure path do
          output.putStrLn line
        return 1
      | some log => return (← Program.run invocation (some log)).toUInt32
