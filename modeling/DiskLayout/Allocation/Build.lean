import DiskLayout.Allocation.Conversion
import DiskLayout.Allocation.Sizing
import DiskLayout.Customization.Validation
import DiskLayout.Profile

/-!
# Building a table from a base

A base table and requested mountpoints are merged.  Mountpoints that the base has grow to their
requested size; new ones become plain partitions, logical volumes or subvolumes, as the
partitioning mode and the base call for.

## Main definitions

* `BuildOptions` — what the profile says about merging
* `PartitionTable.addMountpoint` — a table with a new mountpoint
* `assemble` — the merged table before it is sized, with its minimums
* `build` — the finished table
-/

namespace DiskLayout

/-- What the profile says about merging. -/
structure BuildOptions where
  mode : PartitioningMode
  /-- The sizes that directories need; the defaults where there are none. -/
  requiredSizes : Option (TextMap Nat)
  /-- The filesystem of new mountpoints without an explicit type. -/
  defaultFilesystem : FilesystemType
  architecture : Architecture

namespace BuildOptions

/-- The options where nothing is said. -/
def standard : BuildOptions := ⟨.autoLvm, none, .xfs, .amd64⟩

/-- The options that a profile states. -/
def ofProfile (profile : ImageProfile) : BuildOptions where
  mode := profile.mode
  requiredSizes := some profile.requiredSizes
  defaultFilesystem := profile.defaultFilesystem
  architecture := profile.platform.architecture

end BuildOptions

namespace Building

/-- The part of the program that reports the records of building. -/
def target : String := "diskplan::allocator"

/-- Whether a mountpoint may lie in a container. -/
def mayBeContained (mountpoint : String) : Bool := !Path.plainOnly.contains mountpoint

/-- A table with a logical volume for a request in the group at a position. -/
def addLogicalVolume (table : PartitionTable) (index : Nat) (group : VolumeGroup)
    (request : FilesystemRequest) (kind : FilesystemType) : Logged LayoutError PartitionTable := do
  let volume ← group.newVolume request.mountpoint kind request.minSize
  Logged.note .debug target
    ("Created logical volume '" ++ volume.name ++ "' for '" ++ request.mountpoint ++ "'")
  let system := { Filesystem.new kind request.mountpoint with label := request.label }
  let labelled := { volume with payload := some (.filesystem system) }
  return table.modifyPartition index
    (Partition.mapContent fun _ => .volumeGroup (group.append labelled))

/-- A table with a subvolume for a request in the btrfs volume at a position. -/
def addSubvolume (table : PartitionTable) (index : Nat) (volume : Btrfs)
    (request : FilesystemRequest) (kind : FilesystemType) : Logged LayoutError PartitionTable := do
  if request.kind.isSome ∧ request.kind ≠ some .btrfs then
    Logged.note .warn target ("Ignoring filesystem type " ++ kind.name ++ " of btrfs subvolume '" ++
      request.mountpoint ++ "'")
  let subvolume ← volume.newSubvolume request.mountpoint request.minSize
  Logged.note .debug target
    ("Created btrfs subvolume '" ++ subvolume.name ++ "' for '" ++ request.mountpoint ++ "'")
  return table.modifyPartition index
    (Partition.mapContent fun _ => .btrfs (volume.append subvolume))

/-- A table with a plain partition for a request. -/
def addPlain (table : PartitionTable) (request : FilesystemRequest) (options : BuildOptions) :
    Logged LayoutError PartitionTable := do
  Logged.note .debug target ("Creating plain partition for '" ++ request.mountpoint ++ "'")
  return table.addBeforeRoot
    (Partition.plain request options.defaultFilesystem options.architecture)

/-- A container of a table that takes in new mountpoints: the volume group, else the btrfs
volume. -/
inductive Container where
  | volumeGroup (index : Nat) (group : VolumeGroup)
  | btrfs (index : Nat) (volume : Btrfs)

/-- The content of the partition at a position. -/
def contentAt? (table : PartitionTable) (index : Nat) : Option Payload :=
  table.partitions[index]?.bind Partition.content?

/-- The volume group of a table, with the position of its partition. -/
def volumeGroup? (table : PartitionTable) : Option Container :=
  table.volumeGroupIndex?.bind fun index =>
    match contentAt? table index with
    | some (.volumeGroup group) => some (.volumeGroup index group)
    | _ => none

/-- The btrfs volume of a table, with the position of its partition. -/
def btrfs? (table : PartitionTable) : Option Container :=
  table.btrfsIndex?.bind fun index =>
    match contentAt? table index with
    | some (.btrfs volume) => some (.btrfs index volume)
    | _ => none

/-- The container of a table that takes in new mountpoints. -/
def container? (table : PartitionTable) : Option Container := volumeGroup? table <|> btrfs? table

end Building

open Building

namespace PartitionTable

/-- A table with a new mountpoint, where the mode and the table call for it. -/
def addMountpoint (options : BuildOptions) (table : PartitionTable)
    (request : FilesystemRequest) : Logged LayoutError PartitionTable :=
  let kind := request.kind.getD options.defaultFilesystem
  if options.mode ≠ .raw ∧ mayBeContained request.mountpoint then
    match container? table with
    | some (.volumeGroup index group) => addLogicalVolume table index group request kind
    | some (.btrfs index volume) => addSubvolume table index volume request kind
    | none => addPlain table request options
  else addPlain table request options

/-- A table with the new mountpoints among the requests; those it has are passed over, for a
conversion may have added one. -/
def addMountpoints (options : BuildOptions) : (table : PartitionTable) →
    List FilesystemRequest → Logged LayoutError PartitionTable
  | table, [] => pure table
  | table, request :: others =>
    if table.containsMountpoint request.mountpoint then addMountpoints options table others
    else do
      let table ← table.addMountpoint options request
      addMountpoints options table others

/-- A base table with the container that the partitioning mode calls for; `contained` says whether
a new mountpoint may lie in one. -/
def prepare (options : BuildOptions) (contained : Bool) (base : PartitionTable) :
    Logged LayoutError PartitionTable :=
  match options.mode with
  | .raw =>
    if base.volumeGroupIndex?.isSome then
      throw (.unsupportedCombination
        "partitioning mode raw is not supported for a partition table with lvm")
    else pure base
  | .lvm | .autoLvm =>
    if options.mode = .lvm ∨ contained then
      if base.btrfsIndex?.isSome then
        throw (.unsupportedCombination ("partitioning mode " ++ options.mode.name ++
          " is not supported for a partition table with btrfs"))
      else base.ensureVolumeGroup options.defaultFilesystem
    else pure base
  | .btrfs =>
    if base.volumeGroupIndex?.isSome then
      throw (.unsupportedCombination
        "partitioning mode btrfs is not supported for a partition table with lvm")
    else base.ensureBtrfs options.defaultFilesystem

end PartitionTable

namespace Minimums

/-- The minimums that requests ask for. -/
def ofRequests (requests : List FilesystemRequest) : Minimums :=
  requests.foldl (fun minimums request => minimums.raise request.mountpoint request.minSize)
    TextMap.empty

/-- The minimums of a table: what requests ask for and what directories need. -/
def ofTable (table : PartitionTable) (requests : List FilesystemRequest)
    (required : Option (TextMap Nat)) : Minimums :=
  (ofRequests requests).charge table (required.getD defaultRequiredSizes)

end Minimums

/-- The base merged with the requested mountpoints, before it is sized, and the minimums. -/
def assemble (base : PartitionTable) (requests : List FilesystemRequest)
    (options : BuildOptions) : Logged LayoutError (PartitionTable × Minimums) := do
  validateFilesystemRequests requests
  base.validateStructure
  let news := requests.filter fun request => !base.containsMountpoint request.mountpoint
  Logged.note .debug target ("Building partition table in " ++ options.mode.name ++
    " mode with " ++ toString news.length ++ " new mountpoint(s)")
  let prepared ← base.prepare options (news.any fun request => mayBeContained request.mountpoint)
  let table ← prepared.addMountpoints options news
  Logged.notes (Minimums.chargeLog table (options.requiredSizes.getD defaultRequiredSizes))
  return (table, Minimums.ofTable table requests options.requiredSizes)

/-- The merged table, sized and grown to at least `goal` bytes and to the size of the base. -/
def sizeBuilt (base : PartitionTable) (requests : List FilesystemRequest) (goal : Nat)
    (options : BuildOptions) : Logged LayoutError PartitionTable := do
  let (table, minimums) ← assemble base requests options
  table.settle minimums (max goal base.size)

/-- Reports a finished table. -/
def announce (target what : String) (finished : Logged LayoutError PartitionTable) :
    Logged LayoutError PartitionTable := do
  let table ← finished
  Logged.note .info target ("Built " ++ what ++ " with " ++ toString table.partitions.length ++
    " partitions, " ++ Size.render table.size ++ " in total")
  return table

/-- The finished table of a base and requested mountpoints, and what is left of the source. -/
def build (base : PartitionTable) (requests : List FilesystemRequest) (goal : Nat)
    (options : BuildOptions) (source : RandomSource) :
    Logged LayoutError PartitionTable × RandomSource :=
  let (finished, rest) := complete (sizeBuilt base requests goal options) source
  (announce target "partition table" finished, rest)

end DiskLayout
