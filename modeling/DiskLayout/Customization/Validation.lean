import DiskLayout.Customization.Basic
import DiskLayout.Error
import DiskLayout.Mountpoint

/-!
# Validation of customizations

A request is checked on its own, whatever policy and base table it meets later.  Every violation
is reported, in the order of the document.

## Main definitions

* `LvmName.isValid` — the names that a volume manager takes
* `PartitioningRequest.violations` — what is wrong with a partitioning request
* `PartitioningRequest.validate` — the check of a partitioning request
* `validateFilesystemRequests` — the check of plain mountpoint requests
-/

namespace DiskLayout

namespace LvmName

/-- Whether a character may stand anywhere but at the start of a name. -/
def isInner (c : Char) : Bool :=
  c.isAlphanum || c == '+' || c == '_' || c == '.' || c == '-'

/-- Whether a text is a name for a volume group or a logical volume. -/
def isValid (name : String) : Bool :=
  match name.toList with
  | [] => false
  | first :: others =>
    isInner first && first != '-' && others.all isInner && name != "." && name != ".."

/-- Checks a name; empty names are generated later and always pass. -/
def violation? (name : String) : Option String :=
  if name = "" ∨ isValid name then none else some ("invalid lvm name " ++ Quoted.quote name)

end LvmName

namespace FilesystemRequest

/-- The filesystem types that may be asked for at a mountpoint, where they are limited: boot
loaders read few of them. -/
def allowedTypes? (mountpoint : String) : Option (List FilesystemType) :=
  if mountpoint = Path.boot then some [.xfs, .ext4]
  else if mountpoint = Path.esp then some [.vfat]
  else none

/-- Checks that a requested type is allowed at its mountpoint. -/
def typeViolation? (request : FilesystemRequest) : Option String :=
  match allowedTypes? request.mountpoint, request.kind with
  | some allowed, some kind =>
    if allowed.contains kind then none
    else some ("unsupported filesystem type for " ++ Quoted.quote request.mountpoint ++ ": " ++
      kind.name)
  | _, _ => none

end FilesystemRequest

namespace PartitioningRequest

/-- A repeated mountpoint, given those before it.  Empty ones are reported on their own. -/
def repeatedMountpoint? (earlier : List String) (mountpoint : String) : Option LayoutError :=
  if mountpoint ≠ "" ∧ earlier.contains mountpoint then
    some (.duplicateName ("duplicate mountpoint " ++ Quoted.quote mountpoint ++
      " in partitioning customizations"))
  else none

/-- A mountpoint that a boot loader could not reach in a container. -/
def unreachable? (container mountpoint : String) : Option LayoutError :=
  if Path.plainOnly.contains mountpoint then
    some (.invalidMountpoint ("invalid mountpoint " ++ Quoted.quote mountpoint ++ " for " ++
      container))
  else none

/-- A mountpoint that is invalid by itself. -/
def invalidMountpoint? (what mountpoint : String) : Option LayoutError :=
  (mountpointFault? mountpoint).map fun fault =>
    .invalidMountpoint ("invalid " ++ what ++ ": " ++ fault.message)

/-- What is wrong with a plain filesystem, given the mountpoints before it. -/
def plainViolations (earlier : List String) (request : FilesystemRequest) : List LayoutError :=
  (invalidMountpoint? "plain filesystem customization" request.mountpoint).toList ++
    (repeatedMountpoint? earlier request.mountpoint).toList ++
    (request.typeViolation?.map fun text =>
      .unsupportedCombination ("invalid plain filesystem customization: " ++ text)).toList ++
    (if request.kind = some .btrfs then
      [.unsupportedCombination ("btrfs filesystem defined under plain partitioning " ++
        "customization: please use the \"btrfs\" customization to define btrfs volumes and " ++
        "subvolumes")]
    else [])

/-- What is wrong with plain filesystems, given the mountpoints before them. -/
def allPlainViolations : (earlier : List String) → List FilesystemRequest → List LayoutError
  | _, [] => []
  | earlier, request :: others =>
    plainViolations earlier request ++ allPlainViolations (earlier ++ [request.mountpoint]) others

/-- What is wrong with a logical volume of the group `group`, given the mountpoints and the names
before it. -/
def logicalViolations (group : String) (earlier names : List String)
    (request : LogicalVolumeRequest) : List LayoutError :=
  (if request.name ≠ "" ∧ names.contains request.name then
      [.duplicateName ("duplicate lvm logical volume name " ++ Quoted.quote request.name ++
        " in volume group " ++ Quoted.quote group ++ " in partitioning customizations")]
    else []) ++
    ((LvmName.violation? request.name).map fun text =>
      .invalidTable ("invalid logical volume customization: " ++ text)).toList ++
    (invalidMountpoint? "logical volume customization" request.filesystem.mountpoint).toList ++
    (repeatedMountpoint? earlier request.filesystem.mountpoint).toList ++
    (unreachable? "logical volume" request.filesystem.mountpoint).toList

/-- What is wrong with logical volumes, given the mountpoints and the names before them. -/
def allLogicalViolations (group : String) : (earlier names : List String) →
    List LogicalVolumeRequest → List LayoutError
  | _, _, [] => []
  | earlier, names, request :: others =>
    logicalViolations group earlier names request ++
      allLogicalViolations group (earlier ++ [request.filesystem.mountpoint])
        (names ++ [request.name]) others

/-- What is wrong with a volume group, given the mountpoints and the group names before it. -/
def groupViolations (earlier names : List String) (request : VolumeGroupRequest) :
    List LayoutError :=
  (if request.name ≠ "" ∧ names.contains request.name then
      [.duplicateName ("duplicate volume group name " ++ Quoted.quote request.name ++
        " in partitioning customizations")]
    else []) ++
    ((LvmName.violation? request.name).map fun text =>
      .invalidTable ("invalid volume group customization: " ++ text)).toList ++
    allLogicalViolations request.name earlier [] request.logicalVolumes

/-- What is wrong with volume groups, given the mountpoints and the group names before them. -/
def allGroupViolations : (earlier names : List String) → List VolumeGroupRequest →
    List LayoutError
  | _, _, [] => []
  | earlier, names, request :: others =>
    groupViolations earlier names request ++
      allGroupViolations
        (earlier ++ request.logicalVolumes.map fun volume => volume.filesystem.mountpoint)
        (names ++ [request.name]) others

/-- What is wrong with a subvolume, given the mountpoints and the names before it. -/
def subvolumeViolations (earlier names : List String) (request : SubvolumeRequest) :
    List LayoutError :=
  (if request.name = "" then
      [.invalidTable "btrfs subvolume with empty name in partitioning customizations"]
    else if names.contains request.name then
      [.duplicateName ("duplicate btrfs subvolume name " ++ Quoted.quote request.name ++
        " in partitioning customizations")]
    else []) ++
    (invalidMountpoint? "btrfs subvolume customization" request.mountpoint).toList ++
    (repeatedMountpoint? earlier request.mountpoint).toList ++
    (unreachable? "btrfs subvolume" request.mountpoint).toList

/-- What is wrong with subvolumes, given the mountpoints and the names before them. -/
def allSubvolumeViolations : (earlier names : List String) → List SubvolumeRequest →
    List LayoutError
  | _, _, [] => []
  | earlier, names, request :: others =>
    subvolumeViolations earlier names request ++
      allSubvolumeViolations (earlier ++ [request.mountpoint]) (names ++ [request.name]) others

/-- What is wrong with btrfs volumes, given the mountpoints before them. -/
def allBtrfsViolations : (earlier : List String) → List BtrfsRequest → List LayoutError
  | _, [] => []
  | earlier, request :: others =>
    allSubvolumeViolations earlier [] request.subvolumes ++
      allBtrfsViolations (earlier ++ request.subvolumes.map SubvolumeRequest.mountpoint) others

/-- Containers that cannot be laid out together. -/
def combinationViolations (request : PartitioningRequest) : List LayoutError :=
  (if request.btrfs.isSome ∧ request.lvm.isSome then
      [.unsupportedCombination "btrfs and lvm partitioning cannot be combined"]
    else []) ++
    (if 1 < request.btrfsVolumes.length then
      [.unsupportedCombination "multiple btrfs volumes are not yet supported"]
    else []) ++
    (if 1 < request.volumeGroups.length then
      [.unsupportedCombination "multiple LVM volume groups are not yet supported"]
    else [])

/-- Everything that is wrong with a partitioning request, in the order of the document. -/
def violations (request : PartitioningRequest) : List LayoutError :=
  request.combinationViolations ++
    allPlainViolations [] request.plainFilesystems ++
    allGroupViolations request.plainMountpoints [] request.volumeGroups ++
    allBtrfsViolations (request.plainMountpoints ++ request.logicalMountpoints)
      request.btrfsVolumes

/-- Checks that a partitioning request can be laid out, whatever the policy. -/
def validate (request : PartitioningRequest) : Except LayoutError Unit :=
  LayoutError.check request.violations

end PartitioningRequest

/-- What is wrong with plain mountpoint requests, given the valid mountpoints before them. -/
def filesystemViolations : (earlier : List String) → List FilesystemRequest → List LayoutError
  | _, [] => []
  | earlier, request :: others =>
    match mountpointFault? request.mountpoint with
    | some fault =>
      .invalidMountpoint ("invalid filesystem customization: " ++ fault.message) ::
        filesystemViolations earlier others
    | none =>
      if earlier.contains request.mountpoint then
        .duplicateName ("duplicate mountpoint " ++ Quoted.quote request.mountpoint ++
          " in filesystem customizations") :: filesystemViolations earlier others
      else filesystemViolations (request.mountpoint :: earlier) others

/-- Checks plain mountpoint requests for invalid and repeated mountpoints. -/
def validateFilesystemRequests (requests : List FilesystemRequest) : Except LayoutError Unit :=
  LayoutError.check (filesystemViolations [] requests)

namespace Customizations

/-- Checks both sections of a customizations document. -/
def validate (customizations : Customizations) : Except LayoutError Unit :=
  LayoutError.check
    ((LayoutError.ofCheck (validateFilesystemRequests customizations.filesystem)).toList ++
      (customizations.partitioning.bind fun request =>
        LayoutError.ofCheck request.validate).toList)

end Customizations

end DiskLayout
