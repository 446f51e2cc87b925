import DiskLayout.Architecture
import DiskLayout.Customization.Basic
import DiskLayout.Table.Walk

/-!
# New partitions

The partitions that are added to a table: plain filesystems for mountpoints, the EFI system
partition, and the `/boot` partition that volume groups and btrfs volumes need.

## Main definitions

* `Partition.plain`, `Partition.esp`, `Partition.boot`, `Partition.biosBoot` — new partitions
* `PartitionTable.addBeforeRoot` — where partitions are added to a base table
-/

namespace DiskLayout

/-- The label of an EFI system partition that is added. -/
def espLabel : String := "EFI-SYSTEM"

/-- The mount options of an EFI system partition that is added. -/
def espFstabOptions : String := "defaults,uid=0,gid=0,umask=077,shortname=winnt"

/-- The type of a partition for a mountpoint. -/
def PartitionType.ofMountpoint (architecture : Architecture) (mountpoint : String) :
    PartitionType :=
  if mountpoint = Path.root then architecture.rootType
  else if mountpoint = Path.usr then architecture.usrType
  else if mountpoint = Path.boot then .xbootldr
  else .linuxGeneric

namespace Partition

/-- An EFI system partition of at least `minSize` bytes. -/
def esp (minSize : Nat) : Partition :=
  let system : Filesystem :=
    { Filesystem.new .vfat Path.esp with label := some espLabel, fstabOptions := espFstabOptions }
  Partition.new (alignUp (max minSize Size.espPartition) Size.partitionGrain) .esp
    (some (.filesystem system))

/-- The filesystem that a request for a mountpoint asks for. -/
def requestedFilesystem (request : FilesystemRequest) (defaultKind : FilesystemType) :
    Filesystem :=
  { Filesystem.new (request.kind.getD defaultKind) request.mountpoint with label := request.label }

/-- A partition with one filesystem, for a request for a mountpoint. -/
def plain (request : FilesystemRequest) (defaultKind : FilesystemType)
    (architecture : Architecture) : Partition :=
  if request.mountpoint = Path.esp then Partition.esp request.minSize
  else
    let system := requestedFilesystem request defaultKind
    Partition.new (alignUp (max request.minSize system.leastSize) Size.partitionGrain)
      (.ofMountpoint architecture request.mountpoint) (some (.filesystem system))

/-- The filesystem of an added `/boot` partition: ext4 where that is the default, and else xfs, for
boot loaders read no other. -/
def bootFilesystem : FilesystemType → FilesystemType
  | .ext4 => .ext4
  | .vfat | .xfs | .btrfs => .xfs

/-- A `/boot` partition. -/
def boot (defaultKind : FilesystemType) : Partition :=
  let kind := bootFilesystem defaultKind
  plain ⟨Path.boot, Size.bootPartition, none, some kind⟩ kind .amd64

/-- A BIOS boot partition. -/
def biosBoot : Partition := Partition.new Size.biosBoot .biosBoot none

end Partition

namespace PartitionTable

/-- A table with a partition added right before the one that holds the root, or at the end. -/
def addBeforeRoot (table : PartitionTable) (partition : Partition) : PartitionTable :=
  let index := (table.partitionIndexOf? Path.root).getD table.partitions.length
  table.insertPartition index partition

end PartitionTable

end DiskLayout
