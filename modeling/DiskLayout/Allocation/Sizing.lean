import DiskLayout.Allocation.Identification
import DiskLayout.Allocation.Minimums
import DiskLayout.Table.Validation

/-!
# Sizing of tables

An assembled table is sized in three steps: every device grows to what it must hold, one partition
takes in the space that is missing to the target, and btrfs volumes get the size of the devices
that hold them.  Then identifiers are filled in and the result is checked.

Sizing adds, rounds up and subtracts no more than there is, and the size of the sized table bounds
all sizes in it.  So this is what words give too if that size is below `Size.limit`.

## Main definitions

* `Payload.requirement` — the space that a payload needs when a table is sized
* `PartitionTable.resize` — every device grown to its minimum, children first
* `PartitionTable.grow` — free space given to the root
* `PartitionTable.syncBtrfs` — btrfs volumes of the size of their devices
* `PartitionTable.settle` — the three steps together
* `complete` — identification and the final check
-/

namespace DiskLayout

/-- The space that an encrypted container takes from the device that holds it. -/
def luksOverhead : Option Payload → Nat
  | some (.luks _) => Size.luksHeader
  | _ => 0

/-- The space that a payload needs when a table is sized.  A btrfs volume never shrinks below the
size it has. -/
def Payload.requirement : Payload → Nat
  | .btrfs volume => max volume.size volume.requiredSize
  | .luks ⟨_, _, _, inner⟩ => inner.requirement + Size.luksHeader
  | .filesystem system => system.leastSize
  | .volumeGroup group => group.requiredSize
  | .swap _ => 0

namespace Sizing

/-- The part of the program that reports the records of sizing. -/
def target : String := Minimums.target

/-- The least size of a device of `size` bytes that holds a payload and gives what is mounted in
it its minimum. -/
def deviceSize (minimums : Minimums) (size : Nat) (payload : Option Payload) : Nat :=
  let required := (payload.map Payload.requirement).getD 0
  let minimum :=
    match (payload.bind Payload.mountpoint?).bind minimums.get? with
    | some minimum => minimum + luksOverhead payload
    | none => 0
  max (max size required) minimum

/-- The editor that grows nodes to their minimums. -/
def resizer (minimums : Minimums) : Editor Id where
  partition _ partition :=
    { partition with
      size := alignUp (deviceSize minimums partition.size partition.payload) Size.partitionGrain }
  filesystem system := system
  volumeGroup group := group
  logicalVolume volume :=
    { volume with
      size := alignUp (deviceSize minimums volume.size volume.payload) Size.extent }
  btrfs volume := { volume with size := max volume.size volume.requiredSize }
  subvolume volume :=
    { volume with size := max volume.size ((minimums.get? volume.mountpoint).getD 0) }
  swap space := space
  luks container := container

/-- What is reported about the resizing of partitions whose positions start at `index`. -/
def resizeLog : (index : Nat) → (before after : List Partition) → List Record
  | index, old :: olds, new :: news =>
    let rest := resizeLog (index + 1) olds news
    if old.size = new.size then rest
    else
      ⟨.trace, target, "Resizing partition " ++ toString (index + 1) ++ " from " ++
        Size.render old.size ++ " to " ++ Size.render new.size⟩ :: rest
  | _, _, _ => []

/-- The free space of a volume group on a physical volume, in whole extents. -/
def freeSpace (group : VolumeGroup) (physicalSize : Nat) : Nat :=
  VolumeGroup.usableSize physicalSize - (group.requiredSize - Size.volumeGroupMetadata)

/-- Whether a logical volume holds the root filesystem. -/
def isRootVolume (volume : LogicalVolume) : Bool := volume.mountpoint? == some Path.root

/-- A logical volume in whole extents with free space added. -/
def enlarge (free : Nat) (volume : LogicalVolume) : LogicalVolume :=
  { volume with size := alignUp volume.size Size.extent + free }

/-- A volume group whose root volume takes in all free extents of the physical volume. -/
def growRootVolume (physicalSize : Nat) (group : VolumeGroup) : VolumeGroup :=
  match group.logicalVolumes.findIdx? isRootVolume with
  | some index =>
    { group with
      logicalVolumes :=
        group.logicalVolumes.modify index (enlarge (freeSpace group physicalSize)) }
  | none => group

/-- The space inside a device behind the header of an encrypted container. -/
def innerSize (partition : Partition) : Nat := partition.size - luksOverhead partition.payload

/-- A partition enlarged by `delta`, a volume group in it growing with it. -/
def growPartition (delta : Nat) (partition : Partition) : Partition :=
  let grown := { partition with size := partition.size + delta }
  grown.mapContent fun payload =>
    match payload with
    | .volumeGroup group => .volumeGroup (growRootVolume (innerSize grown) group)
    | other => other

/-- What is reported about a volume group that grows. -/
def growRootLog (physicalSize : Nat) (group : VolumeGroup) : List Record :=
  match group.logicalVolumes.find? isRootVolume with
  | some root =>
    [⟨.trace, target, "Growing logical volume '" ++ root.name ++ "' by " ++
      Size.render (freeSpace group physicalSize)⟩]
  | none => []

/-- What is reported about a partition that grows by `delta` to reach `goal`. -/
def growLog (index delta goal : Nat) (partition : Partition) : List Record :=
  let grown := { partition with size := partition.size + delta }
  ⟨.debug, target, "Growing partition " ++ toString (index + 1) ++ " by " ++ Size.render delta ++
      " to reach " ++ Size.render goal⟩ ::
    (match grown.content? with
      | some (.volumeGroup group) => growRootLog (innerSize grown) group
      | _ => [])

/-- A partition whose btrfs volume has the size of the space that holds it. -/
def syncPartition (partition : Partition) : Partition :=
  partition.mapContent fun payload =>
    match payload with
    | .btrfs volume => .btrfs { volume with size := innerSize partition }
    | other => other

/-- What is reported about the partitions of a finished table. -/
def offsetsLog (table : PartitionTable) : List Record :=
  table.partitions.zipIdx.flatMap fun (partition, index) =>
    match table.startOffset? index with
    | some offset =>
      [⟨.debug, target, "Partition " ++ toString (index + 1) ++ " (" ++ partition.kind.render ++
        ") starts at " ++ Size.render offset ++ " with " ++ Size.render partition.size⟩]
    | none => []

end Sizing

namespace PartitionTable

open Sizing

/-- A table in which every device has grown to its minimum, children first.  Logical volumes end
up on whole extents and partitions on the grain; nothing shrinks. -/
def resize (minimums : Minimums) (table : PartitionTable) : PartitionTable :=
  Id.run (table.edit .childrenFirst (resizer minimums))

/-- The position of the partition that takes in free space: the one holding the root, else the
last. -/
def growthIndex? (table : PartitionTable) : Option Nat :=
  match table.partitionIndexOf? Path.root with
  | some index => some index
  | none => if table.partitions = [] then none else some (table.partitions.length - 1)

/-- A table with its size set to the sum of its partitions. -/
def withExactSize (table : PartitionTable) : PartitionTable :=
  { table with size := table.partitionsSize }

/-- A table whose partitions add up to `goal` bytes, in whole sectors.  A table that is larger
keeps its partitions. -/
def grow (goal : Nat) (table : PartitionTable) : Logged LayoutError PartitionTable :=
  let natural := table.partitionsSize
  let goal := alignUp goal Size.sector
  if goal ≤ natural then pure table.withExactSize
  else
    match table.growthIndex? with
    | none => throw (.invalidTable "partition table has no partition to grow")
    | some index => do
      match table.partitions[index]? with
      | some partition => Logged.notes (growLog index (goal - natural) goal partition)
      | none => pure ()
      return (table.modifyPartition index (growPartition (goal - natural))).withExactSize

/-- A table in which every btrfs volume has the size of the partition that holds it, less the
header of an encrypted container. -/
def syncBtrfs (table : PartitionTable) : PartitionTable :=
  { table with partitions := table.partitions.map syncPartition }

/-- A table sized for its minimums and grown to `goal` bytes. -/
def settle (minimums : Minimums) (goal : Nat) (table : PartitionTable) :
    Logged LayoutError PartitionTable := do
  let resized := table.resize minimums
  Logged.notes (resizeLog 0 table.partitions resized.partitions)
  let grown ← resized.grow goal
  return grown.syncBtrfs

end PartitionTable

/-- Fills the slots of a sized table and checks the result.  A table that could not be sized draws
nothing; one that fails the check has drawn its identifiers. -/
def complete (sized : Logged LayoutError PartitionTable) (source : RandomSource) :
    Logged LayoutError PartitionTable × RandomSource :=
  match sized.result with
  | .error error => (⟨sized.log, .error error⟩, source)
  | .ok table =>
    let (identified, rest) := table.identify.run source
    let checked : Logged LayoutError PartitionTable := do
      let table ← sized
      Logged.notes (table.identificationLog identified)
      identified.validate
      Logged.notes (Sizing.offsetsLog identified)
      Logged.note .debug Sizing.target ("Disk image needs " ++ Size.render identified.imageSize)
      return identified
    (checked, rest)

end DiskLayout
