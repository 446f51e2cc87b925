import DiskLayout.Platform
import DiskLayout.TextMap
import DiskLayout.Table.Validation

/-!
# Flattened layouts

A flattened layout lists the devices and the mounts through which an image pipeline reaches the
filesystems of a finished table.  The disk image is a loopback device; each logical volume is a
device on top of it.

## Main definitions

* `Device`, `Mount`, `FlattenedLayout` — devices, mounts and both together
* `mountName`, `LogicalVolume.deviceName` — the names of mounts and of logical volume devices
* `PartitionTable.flatten` — the flattened layout of a table
-/

namespace DiskLayout

/-- What a device is. -/
inductive DeviceKind where
  | loopback
  | logicalVolume
deriving DecidableEq, Repr

namespace DeviceKind

/-- The name of a device kind. -/
def name : DeviceKind → String
  | loopback => "org.osbuild.loopback"
  | logicalVolume => "org.osbuild.lvm2.lv"

/-- The device kind with a name. -/
def ofName? (text : String) : Option DeviceKind :=
  [loopback, logicalVolume].find? fun kind => kind.name == text

end DeviceKind

/-- What a device is made from. -/
inductive DeviceOptions where
  /-- A disk image, whose partitions may be made devices too. -/
  | loopback (filename : String) (partscan : Bool)
  /-- A logical volume, with the number of the partition that holds its group, from 1. -/
  | logicalVolume (volume : String) (groupPartition : Option Nat)
deriving DecidableEq, Repr

/-- A device of an image pipeline. -/
structure Device where
  kind : DeviceKind
  parent : Option String
  options : DeviceOptions
deriving DecidableEq, Repr

/-- The name of the loopback device over the disk image. -/
def diskDevice : String := "disk"

namespace Device

/-- The loopback device over a whole disk image. -/
def disk (filename : String) : Device := ⟨.loopback, none, .loopback filename true⟩

/-- A logical volume of the volume group on partition `number`. -/
def ofVolume (volume : String) (number : Nat) : Device :=
  ⟨.logicalVolume, some diskDevice, .logicalVolume volume (some number)⟩

end Device

/-- What is mounted. -/
inductive MountKind where
  | xfs
  | ext4
  | fat
  | btrfs
deriving DecidableEq, Repr

namespace MountKind

/-- All mount kinds. -/
def all : List MountKind := [xfs, ext4, fat, btrfs]

/-- The name of a mount kind. -/
def name : MountKind → String
  | xfs => "org.osbuild.xfs"
  | ext4 => "org.osbuild.ext4"
  | fat => "org.osbuild.fat"
  | btrfs => "org.osbuild.btrfs"

/-- The mount kind with a name. -/
def ofName? (text : String) : Option MountKind := all.find? fun kind => kind.name == text

/-- The kind of mount for a filesystem type. -/
def ofFilesystem : FilesystemType → MountKind
  | .xfs => xfs
  | .ext4 => ext4
  | .vfat => fat
  | .btrfs => btrfs

end MountKind

/-- The options of a btrfs mount. -/
structure MountOptions where
  subvolume : Option String
  compress : Option String
deriving DecidableEq, Repr

/-- A mount of an image pipeline. -/
structure Mount where
  name : String
  kind : MountKind
  /-- The name of the device. -/
  source : String
  target : String
  /-- The number of the partition, from 1, for what lies directly on the disk. -/
  partition : Option Nat
  options : Option MountOptions
deriving DecidableEq, Repr

/-- The devices and mounts of a disk image. -/
structure FlattenedLayout where
  mounts : List Mount
  devices : TextMap Device

/-- A path without the separators at its start. -/
def withoutLeadingSlashes (path : String) : List Char := path.toList.dropWhile (· == '/')

/-- The name of the mount at a mountpoint: a dash for the root, and else the path with dashes in
place of separators. -/
def mountName (mountpoint : String) : String :=
  if mountpoint = Path.root then "-"
  else String.ofList ((withoutLeadingSlashes mountpoint).map fun c => if c = '/' then '-' else c)

/-- The name of a logical volume's device: after its mountpoint, or after its own name. -/
def LogicalVolume.deviceName (volume : LogicalVolume) : String :=
  "lv-for-" ++ volume.mountpoint?.getD volume.name

namespace Flattening

/-- The part of the program that reports the records of flattening. -/
def target : String := "diskplan::flatten"

/-- The devices and mounts that nodes contribute, in order. -/
structure Contribution where
  devices : List (String × Device)
  mounts : List Mount

/-- The contribution of nodes that stand for nothing. -/
def Contribution.none : Contribution := ⟨[], []⟩

/-- The contributions of two walks one after the other. -/
def Contribution.append (first second : Contribution) : Contribution :=
  ⟨first.devices ++ second.devices, first.mounts ++ second.mounts⟩

/-- A node that cannot stand where it does. -/
def misplaced (visit : Visit) : LayoutError :=
  let holder := (visit.ancestors.getLast?.map Node.kind).getD "partition table"
  .unsupportedPayload (visit.node.kind ++ " is not supported in " ++ holder)

/-- The device of a logical volume: it must hold a filesystem or swap directly. -/
def logicalVolumeDevice (index : Nat) (volume : LogicalVolume) :
    Except LayoutError (String × Device) :=
  match volume.payload with
  | some (.filesystem _) | some (.swap _) =>
    .ok (volume.deviceName, Device.ofVolume volume.name (index + 1))
  | some other =>
    .error (.unsupportedPayload (other.kind ++ " is not supported in logical volume " ++
      Quoted.quote volume.name))
  | none =>
    .error (.unsupportedPayload ("logical volume " ++ Quoted.quote volume.name ++
      " holds neither a filesystem nor swap"))

/-- The mount of a filesystem on a device. -/
def filesystemMount (system : Filesystem) (source : String) (partition : Option Nat) : Mount where
  name := mountName system.mountpoint
  kind := .ofFilesystem system.kind
  source := source
  target := system.mountpoint
  partition := partition
  options := none

/-- The mount of a subvolume on partition `number`. -/
def subvolumeMount (subvolume : Subvolume) (number : Nat) : Mount where
  name := mountName subvolume.mountpoint
  kind := .btrfs
  source := diskDevice
  target := subvolume.mountpoint
  partition := some number
  options := some ⟨some subvolume.name, subvolume.compress⟩

/-- What a visited node contributes. -/
def contribute (visit : Visit) : Logged LayoutError Contribution :=
  match visit.node with
  | .filesystem system =>
    if system.kind = .btrfs then
      throw (.unsupportedPayload ("btrfs filesystem at " ++ Quoted.quote system.mountpoint ++
        " must be mounted through a subvolume"))
    else
      match visit.ancestors with
      | [.partition index _] => do
        Logged.note .trace target
          ("Mounting partition " ++ toString (index + 1) ++ " at '" ++ system.mountpoint ++ "'")
        return ⟨[], [filesystemMount system diskDevice (some (index + 1))]⟩
      | ancestors =>
        match ancestors.getLast? with
        | some (.logicalVolume volume) =>
          return ⟨[], [filesystemMount system volume.deviceName none]⟩
        | _ => throw (misplaced visit)
  | .logicalVolume volume =>
    match visit.ancestors with
    | [.partition index _, .volumeGroup _] => do
      let device ← logicalVolumeDevice index volume
      return ⟨[device], []⟩
    | _ => throw (misplaced visit)
  | .subvolume subvolume =>
    match visit.ancestors with
    | [.partition index _, .btrfs _] => return ⟨[], [subvolumeMount subvolume (index + 1)]⟩
    | _ => throw (misplaced visit)
  | .partition _ _ | .swap _ => return Contribution.none
  | .volumeGroup _ | .btrfs _ =>
    match visit.ancestors with
    | [.partition _ _] => return Contribution.none
    | _ => throw (misplaced visit)
  | .luks _ => throw (misplaced visit)

/-- What visited nodes contribute, in order. -/
def contributeAll : List Visit → Logged LayoutError Contribution
  | [] => return Contribution.none
  | visit :: others => do
    let first ← contribute visit
    let others ← contributeAll others
    return first.append others

/-- Whether a mount comes no later than another: targets ascend. -/
def noLater (first second : Mount) : Bool := !(second.target < first.target)

end Flattening

namespace PartitionTable

open Flattening

/-- The devices and mounts of a table in the disk image `filename`.  Fails on nodes that cannot be
mounted where they are, and where a mountpoint that the platform boots from is absent. -/
def flatten (filename : String) (table : PartitionTable) (platform : Platform) :
    Logged LayoutError FlattenedLayout := do
  let contribution ← contributeAll (table.visits .parentsFirst)
  let devices := TextMap.ofList ((diskDevice, Device.disk filename) :: contribution.devices)
  let mounts := contribution.mounts.mergeSort noLater
  let targets := mounts.map Mount.target
  match platform.requiredMountpoints.filter fun path => !targets.contains path with
  | [] =>
    Logged.note .debug target
      ("Flattened partition table into " ++ toString devices.entries.length ++ " device(s) and " ++
        toString mounts.length ++ " mount(s)")
    return ⟨mounts, devices⟩
  | missing => throw (.missingRequiredMount missing)

end PartitionTable

end DiskLayout
