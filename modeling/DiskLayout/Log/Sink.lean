import DiskLayout.Document.Value
import DiskLayout.Log

/-!
# Log sinks

Records go to several sinks.  Each sink has a ceiling of its own, and is added with another one;
it takes the records that both admit.  One kind of sink writes a record as lines of text, another
as an entry of a document.

## Main definitions

* `Sink` — the two ceilings of a sink, `Sink.accepts` — the records that it takes
* `Sinks.ceiling`, `Sinks.enabled` — what a list of sinks wants
* `Record.textLines` — a record as lines of text
* `Located`, `Located.entries` — a record with its place, and its entries in a log file
-/

namespace DiskLayout

/-- The ceilings of a sink. -/
structure Sink where
  /-- The ceiling of the sink itself. -/
  own : Verbosity
  /-- The ceiling that it is added with. -/
  ceiling : Verbosity
deriving DecidableEq, Repr

namespace Sink

/-- Whether a sink takes records of a level. -/
def accepts (sink : Sink) (level : Level) : Bool :=
  sink.ceiling.admits level && sink.own.admits level

/-- The sink that writes to a file; it takes every record that its added ceiling admits. -/
def file (ceiling : Verbosity) : Sink := ⟨.upTo .trace, ceiling⟩

/-- The sink that writes to the standard error. -/
def standardError (verbosity : Verbosity) : Sink := ⟨verbosity, verbosity⟩

end Sink

/-- Sinks in the order in which they were added. -/
abbrev Sinks := List Sink

namespace Sinks

/-- The least urgent level that some added ceiling admits. -/
def ceiling (sinks : Sinks) : Verbosity :=
  sinks.foldl (fun greatest sink => greatest.max sink.ceiling) .off

/-- Whether some sink takes records of a level. -/
def enabled (sinks : Sinks) (level : Level) : Bool := sinks.any fun sink => sink.accepts level

/-- The positions of the sinks that take records of a level. -/
def takers (sinks : Sinks) (level : Level) : List Nat :=
  (sinks.zipIdx.filter fun entry => entry.1.accepts level).map Prod.snd

end Sinks

namespace Record

/-- A record as lines of text: level and part between brackets, then the message, whose further
lines are indented. -/
def textLines (record : Record) : List String :=
  let level := record.level.name ++
    String.ofList (List.replicate (5 - record.level.name.length) ' ')
  let head := "[" ++ level ++ " " ++ record.target ++ "] "
  match record.message.splitOn "\n" with
  | [] => []
  | first :: others => (head ++ first) :: others.map ("    " ++ ·)

end Record

/-- A record with the place in the program where it was made, as far as that is known. -/
structure Located where
  record : Record
  module : Option String
  file : Option String
  line : Option Nat
deriving Repr

namespace Located

/-- A record whose place is not known. -/
def nowhere (record : Record) : Located := ⟨record, none, none, none⟩

/-- The entries of a record in a log file, apart from the time; unknown texts are empty and an
unknown line is 0. -/
def entries (located : Located) : List (String × Value) := [
  ("level", .text located.record.level.name.toLower),
  ("message", .text located.record.message),
  ("target", .text located.record.target),
  ("module", .text (located.module.getD "")),
  ("file", .text (located.file.getD "")),
  ("line", .number (located.line.getD 0))]

end Located

end DiskLayout
