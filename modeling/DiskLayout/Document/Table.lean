import DiskLayout.Document.Size
import DiskLayout.Table.Basic

/-!
# Partition tables in documents

A payload is written as a mapping with a single key that names its kind.  Identifiers, labels and
payloads that are absent are left out, and so are flags and numbers that have their default.

## Main definitions

* `Payload.encode`, `Payload.decode` — writing and reading a payload
* `Partition.encode`, `Partition.decode` — writing and reading a partition
* `PartitionTable.encode`, `PartitionTable.decode` — writing and reading a table
-/

namespace DiskLayout

/-- Writes a UUID. -/
def Uuid.encode (uuid : Uuid) : Value := .text uuid.render

/-- Reads a UUID. -/
def Uuid.decode : Decoder Uuid := fun source => do
  match Uuid.parse? (← Decoder.text source) with
  | some uuid => return uuid
  | none => Decoder.refuse

/-- Writes a volume identifier. -/
def VolumeId.encode (id : VolumeId) : Value := .text id.toText

/-- Reads a volume identifier in a format of UUIDs. -/
def VolumeId.decodeIn (format : UuidFormat) : Decoder VolumeId := fun source => do
  return VolumeId.readIn format (← Decoder.text source)

/-- Reads a volume identifier. -/
def VolumeId.decode : Decoder VolumeId := VolumeId.decodeIn .standard

/-- Writes a partition type. -/
def PartitionType.encode (type : PartitionType) : Value := .text type.render

/-- Reads a partition type in a format of UUIDs. -/
def PartitionType.decodeIn (format : UuidFormat) : Decoder PartitionType := fun source => do
  let text ← Decoder.text source
  match PartitionType.parseIn? format text with
  | some type => return type
  | none => .error (.because ("Unknown partition type: " ++ text))

/-- Reads a partition type. -/
def PartitionType.decode : Decoder PartitionType := PartitionType.decodeIn .standard

/-- Writes a filesystem type. -/
def FilesystemType.encode (type : FilesystemType) : Value := .text type.name

/-- The filesystem type with a label. -/
def FilesystemType.ofLabel? : CaseLabel → Option FilesystemType
  | .name name => FilesystemType.ofName? name
  | .number number => FilesystemType.all[number]?

/-- Reads a filesystem type. -/
def FilesystemType.decode : Decoder FilesystemType := Decoder.labelled FilesystemType.ofLabel?

/-- Writes a table kind. -/
def TableKind.encode (kind : TableKind) : Value := .text kind.name

/-- Reads a table kind. -/
def TableKind.decode : Decoder TableKind := Decoder.named TableKind.ofName?

/-- The first number that no longer fits a 32-bit field. -/
def wordLimit : Nat := 4294967296

namespace Filesystem

/-- Writes a filesystem. -/
def encode (filesystem : Filesystem) : Value :=
  .record [
    .always "type" filesystem.kind.encode,
    .whenSome "uuid" VolumeId.encode filesystem.uuid,
    .whenSome "label" .text filesystem.label,
    .always "mountpoint" (.text filesystem.mountpoint),
    .always "fstabOptions" (.text filesystem.fstabOptions),
    .whenNot (filesystem.fstabFreq == 0) "fstabFreq" (.number filesystem.fstabFreq),
    .whenNot (filesystem.fstabPassNo == 0) "fstabPassNo" (.number filesystem.fstabPassNo)]

/-- The fields of a filesystem. -/
def fields : Fields Filesystem :=
  Filesystem.mk <$> .required "type" FilesystemType.decode
    <*> .optional "uuid" VolumeId.decode
    <*> .optional "label" Decoder.text
    <*> .required "mountpoint" Decoder.text
    <*> .withDefault "fstabOptions" defaultFstabOptions Decoder.text
    <*> .withDefault "fstabFreq" 0 (Decoder.natural wordLimit)
    <*> .withDefault "fstabPassNo" 0 (Decoder.natural wordLimit)

end Filesystem

namespace Swap

/-- Writes swap space. -/
def encode (swap : Swap) : Value :=
  .record [
    .whenSome "uuid" VolumeId.encode swap.uuid,
    .whenSome "label" .text swap.label,
    .always "fstabOptions" (.text swap.fstabOptions)]

/-- The fields of swap space. -/
def fields : Fields Swap :=
  Swap.mk <$> .optional "uuid" VolumeId.decode
    <*> .optional "label" Decoder.text
    <*> .withDefault "fstabOptions" defaultFstabOptions Decoder.text

end Swap

namespace Subvolume

/-- Writes a subvolume. -/
def encode (subvolume : Subvolume) : Value :=
  .record [
    .always "name" (.text subvolume.name),
    .always "mountpoint" (.text subvolume.mountpoint),
    .always "size" (Size.encode subvolume.size),
    .whenSome "compress" .text subvolume.compress]

/-- The fields of a subvolume. -/
def fields : Fields Subvolume :=
  Subvolume.mk <$> .required "name" Decoder.text
    <*> .required "mountpoint" Decoder.text
    <*> .withDefault "size" 0 Size.decode
    <*> .optional "compress" Decoder.text

end Subvolume

namespace Btrfs

/-- Writes a btrfs volume. -/
def encode (btrfs : Btrfs) : Value :=
  .record [
    .whenSome "uuid" VolumeId.encode btrfs.uuid,
    .whenSome "label" .text btrfs.label,
    .always "size" (Size.encode btrfs.size),
    .always "subvolumes" (.sequence (btrfs.subvolumes.map Subvolume.encode))]

/-- The fields of a btrfs volume. -/
def fields : Fields Btrfs :=
  Btrfs.mk <$> .optional "uuid" VolumeId.decode
    <*> .optional "label" Decoder.text
    <*> .withDefault "size" 0 Size.decode
    <*> .withDefault "subvolumes" [] (Decoder.sequence Subvolume.fields.closed)

/-- Reads a btrfs volume. -/
def decode : Decoder Btrfs := fields.closed

end Btrfs

mutual

/-- Writes a payload. -/
def Payload.encode : Payload → Value
  | .filesystem system => .mapping [("filesystem", system.encode)]
  | .volumeGroup group => .mapping [("lvm-volume-group", group.encode)]
  | .btrfs volume => .mapping [("btrfs", volume.encode)]
  | .swap space => .mapping [("swap", space.encode)]
  | .luks container => .mapping [("luks", container.encode)]

/-- Writes a volume group. -/
def VolumeGroup.encode : VolumeGroup → Value
  | ⟨name, description, volumes⟩ =>
    .record [
      .always "name" (.text name),
      .whenNot (description == "") "description" (.text description),
      .always "logicalVolumes" (.sequence (encodeLogicalVolumes volumes))]

/-- Writes logical volumes. -/
def encodeLogicalVolumes : List LogicalVolume → List Value
  | [] => []
  | volume :: others => volume.encode :: encodeLogicalVolumes others

/-- Writes a logical volume. -/
def LogicalVolume.encode : LogicalVolume → Value
  | ⟨name, size, payload⟩ =>
    .record [
      .always "name" (.text name),
      .always "size" (Size.encode size),
      encodeOptionalPayload payload]

/-- The entry of a payload that may be absent. -/
def encodeOptionalPayload : Option Payload → Entry
  | none => ⟨none⟩
  | some payload => .always "payload" payload.encode

/-- Writes an encrypted container. -/
def Luks.encode : Luks → Value
  | ⟨uuid, label, cipher, inner⟩ =>
    .record [
      .whenSome "uuid" VolumeId.encode uuid,
      .whenSome "label" .text label,
      .always "cipher" (.text cipher),
      .always "payload" inner.encode]

end

/-- The fields of a logical volume, given how payloads are read. -/
def LogicalVolume.fields (payload : Decoder Payload) : Fields LogicalVolume :=
  LogicalVolume.mk <$> .withDefault "name" "" Decoder.text
    <*> .required "size" Size.decode
    <*> .optional "payload" payload

/-- The fields of a volume group, given how payloads are read. -/
def VolumeGroup.fields (payload : Decoder Payload) : Fields VolumeGroup :=
  VolumeGroup.mk <$> .withDefault "name" "" Decoder.text
    <*> .withDefault "description" "" Decoder.text
    <*> .withDefault "logicalVolumes" [] (Decoder.sequence (LogicalVolume.fields payload).closed)

/-- The fields of an encrypted container, given how payloads are read. -/
def Luks.fields (payload : Decoder Payload) : Fields Luks :=
  Luks.mk <$> .optional "uuid" VolumeId.decode
    <*> .optional "label" Decoder.text
    <*> .withDefault "cipher" defaultCipher Decoder.text
    <*> .required "payload" payload

/-- Reads the payload of a kind, given how payloads inside it are read. -/
def Payload.decodeKind (inner : Decoder Payload) : (kind : String) → Option (Decoder Payload)
  | "filesystem" => some fun source => (Filesystem.fields.closed source).map .filesystem
  | "lvm-volume-group" => some fun source =>
    ((VolumeGroup.fields inner).closed source).map .volumeGroup
  | "btrfs" => some fun source => (Btrfs.decode source).map .btrfs
  | "swap" => some fun source => (Swap.fields.closed source).map .swap
  | "luks" => some fun source => ((Luks.fields inner).closed source).map .luks
  | _ => none

/-- Reads a payload in which payloads are nested at most `depth` deep. -/
def Payload.decodeWithin : (depth : Nat) → Decoder Payload
  | 0 => fun _ => Decoder.refuse
  | depth + 1 => Decoder.variant (Payload.decodeKind (Payload.decodeWithin depth))

/-- Reads a payload. -/
def Payload.decode : Decoder Payload := fun source => Payload.decodeWithin source.depth source

/-- Reads a volume group. -/
def VolumeGroup.decode : Decoder VolumeGroup := (VolumeGroup.fields Payload.decode).closed

namespace Partition

/-- Writes a partition. -/
def encode (partition : Partition) : Value :=
  .record [
    .always "size" (Size.encode partition.size),
    .always "type" partition.kind.encode,
    .whenSome "uuid" Uuid.encode partition.uuid,
    .whenNot (!partition.bootable) "bootable" (.bool partition.bootable),
    encodeOptionalPayload partition.payload]

/-- The fields of a partition. -/
def fields : Fields Partition :=
  Partition.mk <$> .required "size" Size.decode
    <*> .required "type" PartitionType.decode
    <*> .optional "uuid" Uuid.decode
    <*> .withDefault "bootable" false Decoder.bool
    <*> .optional "payload" Payload.decode

/-- Reads a partition. -/
def decode : Decoder Partition := fields.closed

end Partition

namespace PartitionTable

/-- Writes a table. -/
def encode (table : PartitionTable) : Value :=
  .record [
    .whenSome "uuid" VolumeId.encode table.uuid,
    .always "type" table.kind.encode,
    .always "size" (Size.encode table.size),
    .always "partitions" (.sequence (table.partitions.map Partition.encode))]

/-- The fields of a table. -/
def fields : Fields PartitionTable :=
  PartitionTable.mk <$> .optional "uuid" VolumeId.decode
    <*> .withDefault "type" .gpt TableKind.decode
    <*> .withDefault "size" 0 Size.decode
    <*> .withDefault "partitions" [] (Decoder.sequence Partition.decode)

/-- Reads a table. -/
def decode : Decoder PartitionTable := fields.closed

end PartitionTable

end DiskLayout
