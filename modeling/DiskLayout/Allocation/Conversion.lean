import DiskLayout.Allocation.Parts
import DiskLayout.Log
import DiskLayout.Table.Volumes

/-!
# Conversion of the root filesystem

A table without a volume group gets one that takes over the root partition and holds the root
filesystem in a logical volume; a table without a btrfs volume gets one with a root subvolume in
place of the root filesystem.  Boot loaders read neither, so a table without `/boot` gets a plain
partition for it first.

## Main definitions

* `PartitionTable.ensureBoot` — a table with `/boot`
* `PartitionTable.ensureVolumeGroup` — a table with a volume group
* `PartitionTable.ensureBtrfs` — a table with a btrfs volume
-/

namespace DiskLayout

namespace Conversion

/-- The part of the program that reports the records of conversions. -/
def target : String := "diskplan::allocator::convert"

/-- The space inside a root partition behind the header of an encrypted container. -/
def spaceForVolumes (partition : Partition) : Nat :=
  match partition.payload with
  | some (.luks _) => partition.size - Size.luksHeader
  | _ => partition.size

/-- The volume group that takes over a root partition: its root volume has all whole extents of
the partition, and never less than the filesystem needs. -/
def rootGroup (partition : Partition) (system : Filesystem) (name : String) : VolumeGroup :=
  let size := max (VolumeGroup.usableSize (spaceForVolumes partition))
    (alignUp system.leastSize Size.extent)
  (VolumeGroup.empty VolumeGroup.defaultName VolumeGroup.defaultDescription).append
    ⟨name, size, some (.filesystem system)⟩

/-- A root partition taken over by a volume group.  Its type becomes that of a physical volume
unless an encrypted container lies between. -/
def toVolumeGroup (group : VolumeGroup) (partition : Partition) : Partition :=
  let converted := partition.mapContent fun _ => .volumeGroup group
  match partition.payload with
  | some (.luks _) => converted
  | _ => { converted with kind := .lvm }

/-- The btrfs volume that takes over a root filesystem, without subvolumes. -/
def rootBtrfs (partition : Partition) (system : Filesystem) : Btrfs :=
  ⟨system.uuid, system.label, partition.size, []⟩

/-- The root partition of a table, with its position and filesystem; `what` names the container
that it is wanted for. -/
def rootFilesystem (what : String) (table : PartitionTable) :
    Except LayoutError (Nat × Partition × Filesystem) :=
  match table.partitionIndexOf? Path.root with
  | none => .error (.invalidTable "partition table has no root filesystem")
  | some index =>
    match table.partitions[index]?, table.partitions[index]?.bind Partition.content? with
    | some partition, some (.filesystem system) => .ok (index, partition, system)
    | some _, some payload =>
      .error (.unsupportedCombination ("cannot convert " ++ payload.kind ++
        " holding the root filesystem to " ++ what))
    | _, _ => .error (.invalidTable "root partition has no payload")

end Conversion

namespace PartitionTable

open Conversion

/-- A table with a plain `/boot` partition. -/
def ensureBoot (defaultKind : FilesystemType) (table : PartitionTable) :
    Logged LayoutError PartitionTable :=
  if table.containsMountpoint Path.boot then pure table
  else do
    Logged.note .debug target "Adding a /boot partition"
    return table.addBeforeRoot (Partition.boot defaultKind)

/-- A table with a volume group: the one it has, or a new one around the root filesystem. -/
def ensureVolumeGroup (defaultKind : FilesystemType) (table : PartitionTable) :
    Logged LayoutError PartitionTable :=
  if table.volumeGroupIndex?.isSome then pure table
  else do
    let table ← table.ensureBoot defaultKind
    let (index, partition, system) ← rootFilesystem "lvm" table
    Logged.note .debug target ("Moving the root filesystem of partition " ++
      toString (index + 1) ++ " into a volume group")
    let empty := VolumeGroup.empty VolumeGroup.defaultName VolumeGroup.defaultDescription
    let name ← empty.generateName Path.root
    return table.modifyPartition index (toVolumeGroup (rootGroup partition system name))

/-- A table with a btrfs volume: the one it has, or a new one in place of the root filesystem. -/
def ensureBtrfs (defaultKind : FilesystemType) (table : PartitionTable) :
    Logged LayoutError PartitionTable :=
  if table.btrfsIndex?.isSome then pure table
  else do
    let table ← table.ensureBoot defaultKind
    let (index, partition, system) ← rootFilesystem "btrfs" table
    Logged.note .debug target ("Moving the root filesystem of partition " ++
      toString (index + 1) ++ " into a btrfs volume")
    let volume := rootBtrfs partition system
    let root ← volume.newSubvolume Path.root 0
    return table.modifyPartition index
      (Partition.mapContent fun _ => .btrfs (volume.append root))

end PartitionTable

end DiskLayout
