import DiskLayout.FilesystemType
import DiskLayout.Identifier.VolumeId
import DiskLayout.PartitionType

/-!
# Partition tables

A partition table is the root of a disk layout.  Its partitions hold payloads: a filesystem, a
volume group with logical volumes, a btrfs volume with subvolumes, swap space, or an encrypted
container around one more payload.  Logical volumes hold payloads in turn.  Positions on the disk
are not stored; they follow from the sizes of the partitions before.

## Main definitions

* `PartitionTable`, `Partition`, `Payload` — a table and its parts
* `Filesystem`, `Swap`, `Btrfs`, `Subvolume`, `VolumeGroup`, `LogicalVolume`, `Luks` — payloads
* `Payload.mountpoint?`, `Payload.requiredSize` — what a payload exposes and needs
* `Partition.content?` — the payload of a partition behind one encrypted container
* `PartitionTable.startOffset?`, `PartitionTable.partitionsSize`, `PartitionTable.imageSize` —
  positions and sums
-/

namespace DiskLayout

/-- The kind of a partition table. -/
inductive TableKind where
  | gpt
  | dos
deriving DecidableEq, Repr, Inhabited

namespace TableKind

/-- The name of a table kind in documents. -/
def name : TableKind → String
  | gpt => "gpt"
  | dos => "dos"

/-- The table kind with a name. -/
def ofName? (text : String) : Option TableKind := [gpt, dos].find? fun kind => kind.name == text

end TableKind

/-- The mount options of a filesystem that names none. -/
def defaultFstabOptions : String := "defaults"

/-- The cipher of an encrypted container that names none. -/
def defaultCipher : String := "aes-xts-plain64"

/-- A filesystem with its mount entry. -/
structure Filesystem where
  kind : FilesystemType
  uuid : Option VolumeId
  label : Option String
  mountpoint : String
  fstabOptions : String
  fstabFreq : Nat
  fstabPassNo : Nat
deriving DecidableEq, Repr

namespace Filesystem

/-- A filesystem with the default mount entry for its mountpoint. -/
def new (kind : FilesystemType) (mountpoint : String) : Filesystem where
  kind := kind
  uuid := none
  label := none
  mountpoint := mountpoint
  fstabOptions := defaultFstabOptions
  fstabFreq := 0
  fstabPassNo := kind.passNumber mountpoint

/-- The smallest device that can hold a filesystem. -/
def leastSize (filesystem : Filesystem) : Nat := filesystem.kind.leastSize

end Filesystem

/-- Swap space. -/
structure Swap where
  uuid : Option VolumeId
  label : Option String
  fstabOptions : String
deriving DecidableEq, Repr

/-- A subvolume of a btrfs volume, with the space it is expected to use. -/
structure Subvolume where
  name : String
  mountpoint : String
  size : Nat
  compress : Option String
deriving DecidableEq, Repr

/-- A btrfs volume.  Its size follows the device that holds it. -/
structure Btrfs where
  uuid : Option VolumeId
  label : Option String
  size : Nat
  subvolumes : List Subvolume
deriving DecidableEq, Repr

namespace Btrfs

/-- A btrfs volume without identifier, size and subvolumes. -/
def empty : Btrfs := ⟨none, none, 0, []⟩

/-- The space a btrfs volume needs: what its subvolumes use together, and never less than the
smallest volume. -/
def requiredSize (btrfs : Btrfs) : Nat :=
  max (Size.total (btrfs.subvolumes.map Subvolume.size)) Size.leastBtrfs

end Btrfs

mutual

/-- The contents of a partition, a logical volume or an encrypted container. -/
inductive Payload where
  | filesystem (filesystem : Filesystem)
  | volumeGroup (group : VolumeGroup)
  | btrfs (btrfs : Btrfs)
  | swap (swap : Swap)
  | luks (container : Luks)

/-- A volume group that spans the device holding it. -/
structure VolumeGroup where
  name : String
  description : String
  logicalVolumes : List LogicalVolume

/-- A logical volume of a volume group. -/
structure LogicalVolume where
  name : String
  size : Nat
  payload : Option Payload

/-- An encrypted container around one payload. -/
structure Luks where
  uuid : Option VolumeId
  label : Option String
  cipher : String
  payload : Payload

end

namespace VolumeGroup

/-- A volume group without logical volumes. -/
def empty (name description : String) : VolumeGroup := ⟨name, description, []⟩

/-- The space a volume group needs: its logical volumes in whole extents and the metadata. -/
def requiredSize (group : VolumeGroup) : Nat :=
  Size.total (group.logicalVolumes.map fun volume => alignUp volume.size Size.extent) +
    Size.volumeGroupMetadata

/-- The space for logical volumes on a physical volume, in whole extents. -/
def usableSize (physicalSize : Nat) : Nat :=
  alignDown (physicalSize - Size.volumeGroupMetadata) Size.extent

end VolumeGroup

namespace Payload

/-- The word for the kind of a payload. -/
def kind : Payload → String
  | filesystem _ => "filesystem"
  | volumeGroup _ => "lvm-volume-group"
  | btrfs _ => "btrfs"
  | swap _ => "swap"
  | luks _ => "luks"

/-- The mountpoint of the filesystem that a payload is, seen through encrypted containers. -/
def mountpoint? : Payload → Option String
  | filesystem system => some system.mountpoint
  | luks ⟨_, _, _, inner⟩ => inner.mountpoint?
  | volumeGroup _ | btrfs _ | swap _ => none

/-- The space that a payload needs from the device holding it. -/
def requiredSize : Payload → Nat
  | filesystem system => system.leastSize
  | volumeGroup group => group.requiredSize
  | btrfs volume => volume.requiredSize
  | swap _ => 0
  | luks ⟨_, _, _, inner⟩ => inner.requiredSize + Size.luksHeader

/-- The payload behind one encrypted container, or the payload itself. -/
def content : Payload → Payload
  | luks container => container.payload
  | payload => payload

/-- A payload with its content changed, the encrypted container around it kept. -/
def mapContent (change : Payload → Payload) : Payload → Payload
  | luks container => luks { container with payload := change container.payload }
  | payload => change payload

end Payload

namespace LogicalVolume

/-- The mountpoint of the filesystem in a logical volume, seen through encrypted containers. -/
def mountpoint? (volume : LogicalVolume) : Option String :=
  volume.payload.bind Payload.mountpoint?

end LogicalVolume

/-- A partition of a disk. -/
structure Partition where
  size : Nat
  kind : PartitionType
  uuid : Option Uuid
  bootable : Bool
  payload : Option Payload

namespace Partition

/-- A partition without identifier that is not marked bootable. -/
def new (size : Nat) (kind : PartitionType) (payload : Option Payload) : Partition where
  size := size
  kind := kind
  uuid := none
  bootable := false
  payload := payload

/-- The payload of a partition behind one encrypted container. -/
def content? (partition : Partition) : Option Payload := partition.payload.map Payload.content

/-- A partition with its content changed, the encrypted container around it kept. -/
def mapContent (change : Payload → Payload) (partition : Partition) : Partition :=
  { partition with payload := partition.payload.map (Payload.mapContent change) }

/-- Whether the content of a partition is a volume group. -/
def holdsVolumeGroup (partition : Partition) : Bool :=
  match partition.content? with
  | some (.volumeGroup _) => true
  | _ => false

/-- Whether the content of a partition is a btrfs volume. -/
def holdsBtrfs (partition : Partition) : Bool :=
  match partition.content? with
  | some (.btrfs _) => true
  | _ => false

end Partition

/-- A partition table.  Its size is the space available to partitions. -/
structure PartitionTable where
  uuid : Option VolumeId
  kind : TableKind
  size : Nat
  partitions : List Partition

namespace PartitionTable

/-- A table without partitions. -/
def empty (kind : TableKind) : PartitionTable := ⟨none, kind, 0, []⟩

/-- The sum of the partition sizes. -/
def partitionsSize (table : PartitionTable) : Nat :=
  Size.total (table.partitions.map Partition.size)

/-- Where a partition starts on the disk: behind the header and all partitions before it. -/
def startOffset? (table : PartitionTable) (index : Nat) : Option Nat :=
  if index < table.partitions.length then
    some (Size.header + Size.total ((table.partitions.take index).map Partition.size))
  else none

/-- The size of the disk image that holds a table. -/
def imageSize (table : PartitionTable) : Nat := Size.header + table.size + Size.footer

/-- The position of the first partition whose content is a volume group. -/
def volumeGroupIndex? (table : PartitionTable) : Option Nat :=
  table.partitions.findIdx? Partition.holdsVolumeGroup

/-- The position of the first partition whose content is a btrfs volume. -/
def btrfsIndex? (table : PartitionTable) : Option Nat :=
  table.partitions.findIdx? Partition.holdsBtrfs

/-- A table with one partition changed. -/
def modifyPartition (table : PartitionTable) (index : Nat) (change : Partition → Partition) :
    PartitionTable :=
  { table with partitions := table.partitions.modify index change }

/-- A table with a partition inserted at a position. -/
def insertPartition (table : PartitionTable) (index : Nat) (partition : Partition) :
    PartitionTable :=
  { table with partitions := table.partitions.insertIdx index partition }

end PartitionTable

end DiskLayout
