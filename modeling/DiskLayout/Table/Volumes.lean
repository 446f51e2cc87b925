import DiskLayout.Error
import DiskLayout.Table.Basic
import DiskLayout.Text.Quoted

/-!
# New volumes

Volume groups and btrfs volumes take in new volumes for mountpoints.  A logical volume is named
after its mountpoint, with a two-digit suffix where that name is taken; a subvolume is named after
its mountpoint too, and refused where the name is taken.

## Main definitions

* `VolumeGroup.generateName` — an unused name for a logical volume
* `VolumeGroup.newVolume`, `VolumeGroup.append` — a new logical volume for a mountpoint
* `Btrfs.newSubvolume`, `Btrfs.append` — a new subvolume for a mountpoint
-/

namespace DiskLayout

namespace VolumeGroup

/-- The name of the volume group that a conversion creates. -/
def defaultName : String := "rootvg"

/-- The description of a volume group that is created. -/
def defaultDescription : String := "created via diskplan"

/-- The name that a mountpoint suggests: `root` for the root, and else the path with underscores
in place of separators. -/
def stem (mountpoint : String) : String :=
  if mountpoint = Path.root then "root"
  else
    String.ofList ((mountpoint.toList.dropWhile (· == '/')).map fun c => if c = '/' then '_' else c)

/-- A number below one hundred with two digits. -/
def twoDigits (n : Nat) : String := (if n < 10 then "0" else "") ++ toString n

/-- The names to be tried for a mountpoint, in order. -/
def candidates (mountpoint : String) : List String :=
  let base := stem mountpoint ++ "lv"
  base :: (List.range 100).map fun n => base ++ twoDigits n

/-- Whether a logical volume has a name. -/
def isTaken (group : VolumeGroup) (name : String) : Bool :=
  group.logicalVolumes.any fun volume => volume.name == name

/-- The first candidate for a mountpoint that no logical volume has. -/
def generateName (group : VolumeGroup) (mountpoint : String) : Except LayoutError String :=
  match (candidates mountpoint).find? fun name => !group.isTaken name with
  | some name => .ok name
  | none =>
    .error (.duplicateName ("could not create logical volume name for " ++ mountpoint ++
      " in volume group " ++ group.name))

/-- A volume group with a logical volume added at the end. -/
def append (group : VolumeGroup) (volume : LogicalVolume) : VolumeGroup :=
  { group with logicalVolumes := group.logicalVolumes ++ [volume] }

/-- The size of a logical volume that gives a filesystem at least `size` bytes: whole extents, and
no less than the filesystem's least size. -/
def volumeSize (system : Filesystem) (size : Nat) : Nat :=
  alignUp (max size system.leastSize) Size.extent

/-- A new logical volume with a filesystem for a mountpoint. -/
def newVolume (group : VolumeGroup) (mountpoint : String) (kind : FilesystemType) (size : Nat) :
    Except LayoutError LogicalVolume := do
  let name ← group.generateName mountpoint
  let system := Filesystem.new kind mountpoint
  return ⟨name, volumeSize system size, some (.filesystem system)⟩

end VolumeGroup

namespace Btrfs

/-- The name of the subvolume mounted at the root. -/
def rootSubvolume : String := "root"

/-- The compression of subvolumes that are created. -/
def defaultCompression : String := "zstd:1"

/-- The name of the subvolume for a mountpoint. -/
def subvolumeName (mountpoint : String) : String :=
  if mountpoint = Path.root then rootSubvolume else mountpoint

/-- A btrfs volume with a subvolume added at the end. -/
def append (btrfs : Btrfs) (subvolume : Subvolume) : Btrfs :=
  { btrfs with subvolumes := btrfs.subvolumes ++ [subvolume] }

/-- A new subvolume for a mountpoint. -/
def newSubvolume (btrfs : Btrfs) (mountpoint : String) (size : Nat) :
    Except LayoutError Subvolume :=
  let name := subvolumeName mountpoint
  if btrfs.subvolumes.any fun subvolume => subvolume.name == name then
    .error (.duplicateName ("duplicate btrfs subvolume name " ++ Quoted.quote name))
  else .ok ⟨name, mountpoint, size, some defaultCompression⟩

end Btrfs

end DiskLayout
