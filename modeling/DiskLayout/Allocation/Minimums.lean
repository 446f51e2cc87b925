import DiskLayout.Log
import DiskLayout.Size.Text
import DiskLayout.Table.Walk
import DiskLayout.TextMap

/-!
# Minimum sizes

Before a table is sized, every mountpoint gets the minimum that was asked for it.  The sizes that
directories need are charged to the mountpoints that hold them; what is charged to the same
mountpoint adds up.  The sums are exact; in words they are the same where they are below
`Size.limit`.

## Main definitions

* `Minimums` — the minimum size of each mountpoint
* `Minimums.raise` — a minimum raised to a size
* `holder?` — the mountpoint that holds a directory
* `Minimums.charge` — the minimums after the sizes of directories are charged
-/

namespace DiskLayout

/-- The minimum size of each mountpoint. -/
abbrev Minimums := TextMap Nat

/-- The longer of a path and one seen earlier; of two of equal length the path. -/
def longerPath (earlier : Option String) (path : String) : Option String :=
  match earlier with
  | none => some path
  | some other => if other.utf8ByteSize ≤ path.utf8ByteSize then some path else some other

/-- The mountpoint that holds a directory: the longest one that contains it. -/
def holder? (mountpoints : List String) (directory : String) : Option String :=
  (mountpoints.filter fun mountpoint => Path.hasBase directory mountpoint).foldl longerPath none

namespace Minimums

/-- The part of the program that reports the records of sizing. -/
def target : String := "diskplan::allocator::sizing"

/-- The minimums with that of a mountpoint raised to a size. -/
def raise (minimums : Minimums) (mountpoint : String) (size : Nat) : Minimums :=
  minimums.insert mountpoint (max ((minimums.get? mountpoint).getD 0) size)

/-- The sums of the sizes charged to each mountpoint, be they numbers or words, whose sum may
overflow. -/
def charges {size : Type} [Add size] [OfNat size 0] (mountpoints : List String)
    (required : List (String × size)) : TextMap size :=
  required.foldl
    (fun charged entry =>
      match holder? mountpoints entry.1 with
      | some holder => charged.insert holder ((charged.get? holder).getD 0 + entry.2)
      | none => charged)
    TextMap.empty

/-- The minimums after the sizes that directories need are charged to a table's mountpoints. -/
def charge (minimums : Minimums) (table : PartitionTable) (required : TextMap Nat) : Minimums :=
  (charges table.mountpoints required.entries).entries.foldl
    (fun minimums entry => minimums.raise entry.1 entry.2) minimums

/-- What is reported about the charges, one record for each directory. -/
def chargeLog (table : PartitionTable) (required : TextMap Nat) : List Record :=
  required.entries.map fun entry =>
    match holder? table.mountpoints entry.1 with
    | some holder =>
      ⟨.trace, target, "Charging " ++ Size.render entry.2 ++ " for '" ++ entry.1 ++ "' to '" ++
        holder ++ "'"⟩
    | none => ⟨.trace, target, "No mountpoint holds '" ++ entry.1 ++ "'"⟩

end Minimums

end DiskLayout
