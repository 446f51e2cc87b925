import DiskLayout.FilesystemType

/-!
# Customizations

What a user asks for: mountpoints with minimum sizes that are merged into a base table, or a whole
partitioning of plain filesystems, volume groups and btrfs volumes.

## Main definitions

* `FilesystemRequest`, `LogicalVolumeRequest`, `SubvolumeRequest` — requested mountpoints
* `VolumeGroupRequest`, `BtrfsRequest` — requested containers
* `PartitioningRequest` — a requested partitioning
* `Customizations` — the document
* `PartitioningRequest.mountpoints` — every requested mountpoint
-/

namespace DiskLayout

/-- A mountpoint with a minimum size. -/
structure FilesystemRequest where
  mountpoint : String
  minSize : Nat
  label : Option String
  /-- The requested type; the default of the distribution where there is none. -/
  kind : Option FilesystemType
deriving DecidableEq, Repr

namespace FilesystemRequest

/-- A request for a mountpoint without label and type. -/
def new (mountpoint : String) (minSize : Nat) : FilesystemRequest :=
  ⟨mountpoint, minSize, none, none⟩

end FilesystemRequest

/-- A filesystem on a logical volume; an empty name is generated later. -/
structure LogicalVolumeRequest where
  name : String
  filesystem : FilesystemRequest
deriving DecidableEq, Repr

/-- A volume group; an empty name is generated later. -/
structure VolumeGroupRequest where
  name : String
  /-- The size of the partition that holds the volume group. -/
  minSize : Nat
  logicalVolumes : List LogicalVolumeRequest
deriving DecidableEq, Repr

/-- A subvolume of a btrfs volume. -/
structure SubvolumeRequest where
  name : String
  mountpoint : String
deriving DecidableEq, Repr

/-- A btrfs volume. -/
structure BtrfsRequest where
  /-- The size of the partition that holds the volume. -/
  minSize : Nat
  subvolumes : List SubvolumeRequest
deriving DecidableEq, Repr

/-- A whole partitioning.  A section may be absent, or present and empty. -/
structure PartitioningRequest where
  /-- The minimum size of the whole disk. -/
  minSize : Nat
  plain : Option (List FilesystemRequest)
  lvm : Option (List VolumeGroupRequest)
  btrfs : Option (List BtrfsRequest)
deriving DecidableEq, Repr

/-- What a user asks for. -/
structure Customizations where
  filesystem : List FilesystemRequest
  partitioning : Option PartitioningRequest
deriving DecidableEq, Repr

namespace Customizations

/-- The document that asks for nothing. -/
def nothing : Customizations := ⟨[], none⟩

end Customizations

namespace PartitioningRequest

/-- The requested plain filesystems. -/
def plainFilesystems (request : PartitioningRequest) : List FilesystemRequest :=
  request.plain.getD []

/-- The requested volume groups. -/
def volumeGroups (request : PartitioningRequest) : List VolumeGroupRequest :=
  request.lvm.getD []

/-- The requested btrfs volumes. -/
def btrfsVolumes (request : PartitioningRequest) : List BtrfsRequest :=
  request.btrfs.getD []

/-- The requested logical volumes of all volume groups. -/
def logicalVolumes (request : PartitioningRequest) : List LogicalVolumeRequest :=
  request.volumeGroups.flatMap VolumeGroupRequest.logicalVolumes

/-- The mountpoints of the requested plain filesystems. -/
def plainMountpoints (request : PartitioningRequest) : List String :=
  request.plainFilesystems.map FilesystemRequest.mountpoint

/-- The mountpoints of the requested logical volumes. -/
def logicalMountpoints (request : PartitioningRequest) : List String :=
  request.logicalVolumes.map fun volume => volume.filesystem.mountpoint

/-- The mountpoints of the requested subvolumes. -/
def subvolumeMountpoints (request : PartitioningRequest) : List String :=
  (request.btrfsVolumes.flatMap BtrfsRequest.subvolumes).map SubvolumeRequest.mountpoint

/-- Every requested mountpoint: of plain filesystems, of logical volumes, then of subvolumes. -/
def mountpoints (request : PartitioningRequest) : List String :=
  request.plainMountpoints ++ request.logicalMountpoints ++ request.subvolumeMountpoints

end PartitioningRequest

end DiskLayout
