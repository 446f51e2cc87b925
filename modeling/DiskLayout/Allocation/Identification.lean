import DiskLayout.Log
import DiskLayout.Random.Source
import DiskLayout.Table.Walk

/-!
# Identification of tables

Every slot for an identifier takes one draw from the random source, whether or not it is filled
already: the table first, then partitions, filesystems, btrfs volumes, swap spaces and encrypted
containers in the order of a walk with parents first.  Identifiers therefore depend only on the
source and on the position of the slot.

## Main definitions

* `identifier` — the editor that fills slots
* `PartitionTable.identify` — a table with all its slots filled
* `PartitionTable.identificationLog` — what is reported about it
-/

namespace DiskLayout

namespace Identification

/-- The part of the program that reports the records of identification. -/
def target : String := "diskplan::idgen"

/-- The identifier that a table of a kind gets from a draw. -/
def tableId (kind : TableKind) (bytes : Vector UInt8 16) : VolumeId :=
  match kind with
  | .gpt => .random bytes
  | .dos => .dosDisk bytes

/-- The identifier that a partition in a table of a kind gets from a draw: none in a DOS table. -/
def partitionId? (kind : TableKind) (bytes : Vector UInt8 16) : Option Uuid :=
  match kind with
  | .gpt => some (Uuid.ofRandomBytes bytes)
  | .dos => none

/-- The identifier that a filesystem of a type gets from a draw. -/
def filesystemId (kind : FilesystemType) (bytes : Vector UInt8 16) : VolumeId :=
  if kind.usesSerial then .fatSerial bytes else .random bytes

/-- The editor that fills every empty slot of a table of a kind. -/
def identifier (kind : TableKind) : Editor (StateM RandomSource) where
  partition _ partition := do
    let bytes ← RandomSource.draw
    return { partition with uuid := partition.uuid <|> partitionId? kind bytes }
  filesystem system := do
    let bytes ← RandomSource.draw
    return { system with uuid := system.uuid <|> some (filesystemId system.kind bytes) }
  volumeGroup := pure
  logicalVolume := pure
  btrfs volume := do
    let bytes ← RandomSource.draw
    return { volume with uuid := volume.uuid <|> some (.random bytes) }
  subvolume := pure
  swap space := do
    let bytes ← RandomSource.draw
    return { space with uuid := space.uuid <|> some (.random bytes) }
  luks container := do
    let bytes ← RandomSource.draw
    return { container with uuid := container.uuid <|> some (.random bytes) }

/-- What is reported about partitions whose positions start at `index`: the new identifiers. -/
def partitionsLog : (index : Nat) → (before after : List Partition) → List Record
  | index, old :: olds, new :: news =>
    let rest := partitionsLog (index + 1) olds news
    match old.uuid, new.uuid with
    | none, some uuid =>
      ⟨.trace, target, "Assigning UUID " ++ uuid.render ++ " to partition " ++
        toString (index + 1)⟩ :: rest
    | _, _ => rest
  | _, _, _ => []

end Identification

namespace PartitionTable

/-- A table with all its slots filled; identifiers that are there are kept. -/
def identify (table : PartitionTable) : StateM RandomSource PartitionTable := do
  let bytes ← RandomSource.draw
  let table := { table with uuid := table.uuid <|> some (Identification.tableId table.kind bytes) }
  table.edit .parentsFirst (Identification.identifier table.kind)

/-- What is reported about the identification of a table. -/
def identificationLog (before after : PartitionTable) : List Record :=
  Identification.partitionsLog 0 before.partitions after.partitions

end PartitionTable

end DiskLayout
