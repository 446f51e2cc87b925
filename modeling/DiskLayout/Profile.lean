import DiskLayout.MountPolicy
import DiskLayout.Platform
import DiskLayout.Table.Validation

/-!
# Image profiles

A profile is what a distribution supplies for one kind of image: the base table, the size of the
disk and the rules that customizations must follow.

## Main definitions

* `PartitioningMode` — where new mountpoints go
* `ImageProfile` — a profile
* `ImageProfile.validate` — the check of a profile on its own
-/

namespace DiskLayout

/-- Where new mountpoints go. -/
inductive PartitioningMode where
  /-- Plain partitions only. -/
  | raw
  /-- Logical volumes; a root filesystem without volume group is moved into one. -/
  | lvm
  /-- Like `lvm`, but only where a new mountpoint needs it. -/
  | autoLvm
  /-- Btrfs subvolumes; a root filesystem is moved into a btrfs volume. -/
  | btrfs
deriving DecidableEq, Repr, Inhabited

namespace PartitioningMode

/-- All partitioning modes. -/
def all : List PartitioningMode := [raw, lvm, autoLvm, btrfs]

/-- The name of a partitioning mode. -/
def name : PartitioningMode → String
  | raw => "raw"
  | lvm => "lvm"
  | autoLvm => "auto-lvm"
  | btrfs => "btrfs"

/-- The partitioning mode with a name. -/
def ofName? (text : String) : Option PartitioningMode := all.find? fun mode => mode.name == text

end PartitioningMode

/-- The sizes that directories need in an image that states none. -/
def defaultRequiredSizes : TextMap Nat :=
  TextMap.ofList [(Path.root, Size.gibibyte), (Path.usr, 2 * Size.gibibyte)]

/-- What a distribution supplies for one kind of image. -/
structure ImageProfile where
  name : Option String
  baseTable : PartitionTable
  /-- The minimum size of the disk's partition area. -/
  minSize : Nat
  mode : PartitioningMode
  /-- The sizes that directories need, charged to whatever holds them. -/
  requiredSizes : TextMap Nat
  policy : MountPolicy
  platform : Platform
  /-- The filesystem of new mountpoints without an explicit type. -/
  defaultFilesystem : FilesystemType

namespace ImageProfile

/-- Checks a profile on its own: a default filesystem other than vfat, canonical directories, and
a base table of valid structure. -/
def validate (profile : ImageProfile) : Logged ConfigError Unit := do
  if profile.defaultFilesystem = .vfat then
    throw (.invalidProfile "vfat cannot be the default filesystem")
  match profile.requiredSizes.keys.find? fun directory => !Path.isCanonical directory with
  | some directory =>
    throw (.invalidProfile ("required size directory " ++ Quoted.quote directory ++
      " is not a canonical path"))
  | none =>
    profile.baseTable.validateStructure.mapError fun error =>
      .invalidProfile ("base partition table: " ++ error.message)

end ImageProfile

end DiskLayout
