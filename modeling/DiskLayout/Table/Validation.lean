import DiskLayout.Error
import DiskLayout.Log
import DiskLayout.Mountpoint
import DiskLayout.Size.Text
import DiskLayout.Table.Walk

/-!
# Validation of tables

The structure of a table is checked first: whole sectors, partitions that fit, at most one volume
group and one btrfs volume, distinct names, mountpoints that are valid and distinct, and boot
mountpoints outside volume groups and btrfs volumes.  A finished table must moreover give every
payload a device that is large enough.  Checks stop at the first violation.

## Main definitions

* `PartitionTable.validateStructure` — the checks that hold for templates too
* `PartitionTable.validateDevices` — the checks of devices against their payloads
* `PartitionTable.validate` — all checks
-/

namespace DiskLayout

/-- Checks that the names of logical volumes are distinct where they are given. -/
def VolumeGroup.checkNames (group : VolumeGroup) : Except LayoutError Unit :=
  let rec go (seen : List String) : List LogicalVolume → Except LayoutError Unit
    | [] => .ok ()
    | volume :: others =>
      if volume.name = "" then go seen others
      else if seen.contains volume.name then
        .error (.duplicateName ("duplicate lvm logical volume name " ++
          Quoted.quote volume.name ++ " in volume group " ++ Quoted.quote group.name))
      else go (volume.name :: seen) others
  go [] group.logicalVolumes

/-- Checks that the names of subvolumes are given and distinct. -/
def Btrfs.checkNames (btrfs : Btrfs) : Except LayoutError Unit :=
  let rec go (seen : List String) : List Subvolume → Except LayoutError Unit
    | [] => .ok ()
    | subvolume :: others =>
      if subvolume.name = "" then .error (.invalidTable "btrfs subvolume with empty name")
      else if seen.contains subvolume.name then
        .error (.duplicateName ("duplicate btrfs subvolume name " ++
          Quoted.quote subvolume.name))
      else go (subvolume.name :: seen) others
  go [] btrfs.subvolumes

/-- The word for a container whose contents boot loaders cannot read. -/
def Node.volumeContainer? : Node → Option String
  | logicalVolume _ => some "logical volume"
  | btrfs _ => some "btrfs subvolume"
  | _ => none

namespace Validation

/-- The part of the program that reports the records of validation. -/
def target : String := "diskplan_api::disk::validation"

/-- What a structural check has met so far. -/
structure Met where
  volumeGroups : Nat
  btrfsVolumes : Nat
  mountpoints : List String

/-- Nothing met. -/
def Met.nothing : Met := ⟨0, 0, []⟩

/-- Checks that a partition is whole sectors. -/
def checkSectors (index : Nat) (partition : Partition) : Except LayoutError Unit :=
  if partition.size % Size.sector = 0 then .ok ()
  else
    .error (.invalidTable ("size " ++ toString partition.size ++ " of partition " ++
      toString (index + 1) ++ " is not a multiple of the " ++ toString Size.sector ++
      " byte sector size"))

/-- Checks that partitions whose positions start at `index` are whole sectors. -/
def checkAllSectors : (index : Nat) → List Partition → Except LayoutError Unit
  | _, [] => .ok ()
  | index, partition :: others => do
    checkSectors index partition
    checkAllSectors (index + 1) others

/-- Checks that the partitions fit a table that has a size. -/
def checkTotal (table : PartitionTable) : Except LayoutError Unit :=
  if table.size ≠ 0 ∧ table.size < table.partitionsSize then
    .error (.invalidTable ("partitions need " ++ Size.render table.partitionsSize ++
      " but the table only has " ++ Size.render table.size))
  else .ok ()

/-- Checks a node that holds named volumes: one of its kind, with distinct names. -/
def checkVolumes (met : Met) : Node → Except LayoutError Met
  | .volumeGroup group => do
    if met.volumeGroups ≠ 0 then
      throw (.unsupportedCombination "multiple LVM volume groups are not yet supported")
    group.checkNames
    return { met with volumeGroups := met.volumeGroups + 1 }
  | .btrfs btrfs => do
    if met.btrfsVolumes ≠ 0 then
      throw (.unsupportedCombination "multiple btrfs volumes are not yet supported")
    btrfs.checkNames
    return { met with btrfsVolumes := met.btrfsVolumes + 1 }
  | _ => .ok met

/-- Checks a mountpoint: valid, not met before, and reachable for boot loaders. -/
def checkMounted (met : Met) (visit : Visit) (mountpoint : String) : Except LayoutError Met :=
  match mountpointFault? mountpoint with
  | some fault =>
    .error (.invalidMountpoint ("invalid " ++ visit.node.kind ++ ": " ++ fault.message))
  | none =>
    if met.mountpoints.contains mountpoint then
      .error (.duplicateName ("duplicate mountpoint " ++ Quoted.quote mountpoint))
    else
      match Path.plainOnly.contains mountpoint, visit.ancestors.findSome? Node.volumeContainer? with
      | true, some container =>
        .error (.invalidMountpoint ("invalid mountpoint " ++ Quoted.quote mountpoint ++ " for " ++
          container))
      | _, _ => .ok { met with mountpoints := mountpoint :: met.mountpoints }

/-- Checks a visited node. -/
def checkVisit (met : Met) (visit : Visit) : Logged LayoutError Met := do
  let met ← checkVolumes met visit.node
  match visit.node.mountpoint? with
  | none => return met
  | some mountpoint =>
    Logged.note .trace target s!"Checking mountpoint '{mountpoint}' of {visit.node.kind}"
    checkMounted met visit mountpoint

/-- Checks visited nodes in order. -/
def checkVisits : (met : Met) → List Visit → Logged LayoutError Unit
  | _, [] => return ()
  | met, visit :: others => do
    let met ← checkVisit met visit
    checkVisits met others

/-- Checks that a device has a size and that its payload fits it. -/
def checkDevice (device : String) (size : Nat) (payload : Option Payload) :
    Except LayoutError Unit :=
  if size = 0 then .error (.invalidTable (device ++ " has no size"))
  else
    match payload with
    | none => .ok ()
    | some payload =>
      if size < payload.requiredSize then
        .error (.invalidTable (device ++ " is too small for its " ++ payload.kind ++ ": needs " ++
          Size.render payload.requiredSize ++ " but has " ++ Size.render size))
      else .ok ()

/-- Checks a node that is a device. -/
def checkNode : Node → Except LayoutError Unit
  | .partition index partition =>
    checkDevice ("partition " ++ toString (index + 1)) partition.size partition.payload
  | .logicalVolume volume =>
    checkDevice ("logical volume " ++ Quoted.quote volume.name) volume.size volume.payload
  | _ => .ok ()

end Validation

namespace PartitionTable

open Validation

/-- Checks the structure of a table. -/
def validateStructure (table : PartitionTable) : Logged LayoutError Unit := do
  checkAllSectors 0 table.partitions
  checkTotal table
  checkVisits Met.nothing (table.visits .parentsFirst)

/-- Checks that every device of a table has a size and holds its payload. -/
def validateDevices (table : PartitionTable) : Except LayoutError Unit :=
  (table.visits .parentsFirst).forM fun visit => checkNode visit.node

/-- Checks the structure of a table and its devices. -/
def validate (table : PartitionTable) : Logged LayoutError Unit := do
  table.validateStructure
  table.validateDevices

end PartitionTable

end DiskLayout
