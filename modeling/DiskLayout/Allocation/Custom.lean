import DiskLayout.Allocation.Build

/-!
# Tables from a partitioning request

A partitioning request is laid out from nothing: the boot partitions that the platform needs, the
plain filesystems, `/boot` where a container is requested, and the container.  A root filesystem
is added where none is requested.

## Main definitions

* `CustomOptions` — what the request leaves open
* `PartitioningRequest.volumeGroup`, `PartitioningRequest.btrfs` — the requested containers
* `PartitioningRequest.partitions` — the partitions in order
* `buildCustom` — the finished table
-/

namespace DiskLayout

/-- What a partitioning request leaves open. -/
structure CustomOptions where
  platform : Platform
  tableKind : TableKind
  defaultFilesystem : FilesystemType
  /-- The sizes that directories need; the defaults where there are none. -/
  requiredSizes : Option (TextMap Nat)

namespace CustomOptions

/-- The options where nothing is said. -/
def standard : CustomOptions := ⟨.standard, .gpt, .xfs, none⟩

/-- The options that a profile states. -/
def ofProfile (profile : ImageProfile) : CustomOptions where
  platform := profile.platform
  tableKind := profile.baseTable.kind
  defaultFilesystem := profile.defaultFilesystem
  requiredSizes := some profile.requiredSizes

end CustomOptions

namespace Custom

/-- The part of the program that reports the records of custom tables. -/
def target : String := "diskplan::allocator::custom"

/-- The logical volume that a request asks for; its name may still be empty. -/
def requestedVolume (defaultKind : FilesystemType) (request : LogicalVolumeRequest) :
    LogicalVolume :=
  let system := Partition.requestedFilesystem request.filesystem defaultKind
  ⟨request.name, VolumeGroup.volumeSize system request.filesystem.minSize,
    some (.filesystem system)⟩

/-- Names the volumes of a group that have no name yet, from a position on. -/
def nameVolumes (group : VolumeGroup) : (index : Nat) → List LogicalVolumeRequest →
    Except LayoutError VolumeGroup
  | _, [] => .ok group
  | index, request :: others =>
    if request.name = "" then do
      let name ← group.generateName request.filesystem.mountpoint
      let volumes := group.logicalVolumes.modify index fun volume => { volume with name := name }
      nameVolumes { group with logicalVolumes := volumes } (index + 1) others
    else nameVolumes group (index + 1) others

/-- The volume group that a request asks for.  Requested names are settled before others are
generated; a root volume is added unless the root is requested. -/
def volumeGroup (options : CustomOptions) (hasRoot : Bool) (request : VolumeGroupRequest) :
    Except LayoutError VolumeGroup := do
  let name := if request.name = "" then VolumeGroup.defaultName else request.name
  let volumes := request.logicalVolumes.map (requestedVolume options.defaultFilesystem)
  let group ← nameVolumes ⟨name, VolumeGroup.defaultDescription, volumes⟩ 0 request.logicalVolumes
  if hasRoot then return group
  let root ← group.newVolume Path.root options.defaultFilesystem Size.defaultRoot
  return group.append root

/-- The btrfs volume that a request asks for; a root subvolume is added unless the root is
requested. -/
def btrfs (hasRoot : Bool) (request : BtrfsRequest) : Except LayoutError Btrfs := do
  let subvolumes := request.subvolumes.map fun subvolume =>
    (⟨subvolume.name, subvolume.mountpoint, 0, some Btrfs.defaultCompression⟩ : Subvolume)
  let volume := { Btrfs.empty with subvolumes := subvolumes }
  if hasRoot then return volume
  let root ← volume.newSubvolume Path.root Size.defaultRoot
  return volume.append root

/-- The partitions that the platform boots from: a BIOS boot partition, and an EFI system
partition unless one is requested. -/
def bootPartitions (options : CustomOptions) (requested : List String) : List Partition :=
  (if options.platform.bootMode.isLegacy ∧ options.tableKind = .gpt then [Partition.biosBoot]
    else []) ++
    (if options.platform.bootsUefi ∧ !requested.contains Path.esp then [Partition.esp 0] else [])

/-- The partition of the requested container, or of the root where nothing holds it. -/
def containerPartitions (request : PartitioningRequest) (options : CustomOptions) :
    Logged LayoutError (List Partition) :=
  let hasRoot := request.mountpoints.contains Path.root
  match request.volumeGroups, request.btrfsVolumes with
  | group :: _, _ => do
    let volumes ← volumeGroup options hasRoot group
    Logged.note .debug target ("Adding volume group '" ++ volumes.name ++ "' with " ++
      toString volumes.logicalVolumes.length ++ " logical volume(s)")
    return [Partition.new group.minSize .lvm (some (.volumeGroup volumes))]
  | [], requested :: _ => do
    let volume ← btrfs hasRoot requested
    Logged.note .debug target ("Adding btrfs volume with " ++ toString volume.subvolumes.length ++
      " subvolume(s)")
    return [Partition.new requested.minSize .linuxGeneric (some (.btrfs volume))]
  | [], [] =>
    if hasRoot then return []
    else return [Partition.plain (.new Path.root Size.defaultRoot) options.defaultFilesystem
      options.platform.architecture]

/-- The partition for `/boot` that a requested container needs. -/
def separateBoot (request : PartitioningRequest) (options : CustomOptions) : List Partition :=
  if (request.volumeGroups ≠ [] ∨ request.btrfsVolumes ≠ []) ∧
      !request.mountpoints.contains Path.boot then
    [Partition.boot options.defaultFilesystem]
  else []

/-- A table with the partition marked from which BIOS boots a DOS disk: the one holding `/boot`,
else the one holding the root. -/
def markBootable (options : CustomOptions) (table : PartitionTable) : PartitionTable :=
  if options.tableKind = .dos ∧ options.platform.bootMode.isLegacy then
    match table.partitionIndexOf? Path.boot <|> table.partitionIndexOf? Path.root with
    | some index => table.modifyPartition index fun partition => { partition with bootable := true }
    | none => table
  else table

end Custom

open Custom

/-- The table that a partitioning request asks for, before it is sized. -/
def assembleCustom (request : PartitioningRequest) (options : CustomOptions) :
    Logged LayoutError PartitionTable := do
  request.validate
  let plain := request.plainFilesystems.map fun filesystem =>
    Partition.plain filesystem options.defaultFilesystem options.platform.architecture
  let container ← containerPartitions request options
  let partitions := bootPartitions options request.mountpoints ++ plain ++
    separateBoot request options ++ container
  return markBootable options { PartitionTable.empty options.tableKind with
    partitions := partitions }

/-- The mountpoints of a partitioning request that have minimum sizes: plain filesystems and
logical volumes. -/
def PartitioningRequest.sizedRequests (request : PartitioningRequest) : List FilesystemRequest :=
  request.plainFilesystems ++ request.logicalVolumes.map LogicalVolumeRequest.filesystem

/-- The table that a partitioning request asks for, sized and grown to the requested size. -/
def sizeCustom (request : PartitioningRequest) (options : CustomOptions) :
    Logged LayoutError PartitionTable := do
  let table ← assembleCustom request options
  Logged.notes (Minimums.chargeLog table (options.requiredSizes.getD defaultRequiredSizes))
  table.settle (Minimums.ofTable table request.sizedRequests options.requiredSizes) request.minSize

/-- The finished table of a partitioning request, and what is left of the source. -/
def buildCustom (request : PartitioningRequest) (options : CustomOptions) (source : RandomSource) :
    Logged LayoutError PartitionTable × RandomSource :=
  let (finished, rest) := complete (sizeCustom request options) source
  (announce target "custom partition table" finished, rest)

end DiskLayout
