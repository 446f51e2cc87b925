import DiskLayout.Customization.Basic
import DiskLayout.Document.Table

/-!
# Customizations in documents

The fields of a logical volume's filesystem stand beside its name in one mapping; entries that
neither has are passed over there, and nowhere else.

## Main definitions

* `Customizations.encode`, `Customizations.decode` — writing and reading customizations
* `PartitioningRequest.encode`, `PartitioningRequest.decode` — writing and reading a partitioning
* `FilesystemRequest.decode` — reading a single mountpoint request
-/

namespace DiskLayout

namespace FilesystemRequest

/-- The entries of a mountpoint request. -/
def entries (request : FilesystemRequest) : List Entry :=
  [.always "mountpoint" (.text request.mountpoint),
    .always "minsize" (Size.encode request.minSize),
    .whenSome "label" .text request.label,
    .whenSome "type" FilesystemType.encode request.kind]

/-- Writes a mountpoint request. -/
def encode (request : FilesystemRequest) : Value := .record request.entries

/-- The fields of a mountpoint request. -/
def fields : Fields FilesystemRequest :=
  FilesystemRequest.mk <$> .required "mountpoint" Decoder.text
    <*> .withDefault "minsize" 0 Size.decode
    <*> .optional "label" Decoder.text
    <*> .optional "type" FilesystemType.decode

/-- Reads a mountpoint request. -/
def decode : Decoder FilesystemRequest := fields.closed

end FilesystemRequest

namespace LogicalVolumeRequest

/-- Writes a logical volume request. -/
def encode (request : LogicalVolumeRequest) : Value :=
  .record (.always "name" (.text request.name) :: request.filesystem.entries)

/-- The field of a logical volume request besides those of its filesystem. -/
def nameField : Fields String := .withDefault "name" "" Decoder.text

/-- What is kept of entries. -/
def keepAll : List (String × Source) → Option (List (String × Source))
  | [] => some []
  | (key, source) :: others => do
    let kept ← source.keep?
    let others ← keepAll others
    return (key, .kept kept) :: others

/-- Reads a logical volume request: the name first, then the filesystem from the other entries,
which are kept until then. -/
def decode : Decoder LogicalVolumeRequest := fun source => do
  let entries ← Decoder.require source.entries?
  let name ← nameField.decodeWritten false (.named entries)
  let others ← Decoder.require (keepAll (entries.filter fun entry => entry.1 != "name"))
  return ⟨name, ← FilesystemRequest.fields.decodeWritten false (.named others)⟩

end LogicalVolumeRequest

namespace VolumeGroupRequest

/-- Writes a volume group request. -/
def encode (request : VolumeGroupRequest) : Value :=
  .record [
    .always "name" (.text request.name),
    .always "minsize" (Size.encode request.minSize),
    .always "logical_volumes" (.sequence (request.logicalVolumes.map LogicalVolumeRequest.encode))]

/-- The fields of a volume group request. -/
def fields : Fields VolumeGroupRequest :=
  VolumeGroupRequest.mk <$> .withDefault "name" "" Decoder.text
    <*> .withDefault "minsize" 0 Size.decode
    <*> .withDefault "logical_volumes" [] (Decoder.sequence LogicalVolumeRequest.decode)

end VolumeGroupRequest

namespace SubvolumeRequest

/-- Writes a subvolume request. -/
def encode (request : SubvolumeRequest) : Value :=
  .record [.always "name" (.text request.name), .always "mountpoint" (.text request.mountpoint)]

/-- The fields of a subvolume request. -/
def fields : Fields SubvolumeRequest :=
  SubvolumeRequest.mk <$> .required "name" Decoder.text <*> .required "mountpoint" Decoder.text

end SubvolumeRequest

namespace BtrfsRequest

/-- Writes a btrfs volume request. -/
def encode (request : BtrfsRequest) : Value :=
  .record [
    .always "minsize" (Size.encode request.minSize),
    .always "subvolumes" (.sequence (request.subvolumes.map SubvolumeRequest.encode))]

/-- The fields of a btrfs volume request. -/
def fields : Fields BtrfsRequest :=
  BtrfsRequest.mk <$> .withDefault "minsize" 0 Size.decode
    <*> .withDefault "subvolumes" [] (Decoder.sequence SubvolumeRequest.fields.closed)

end BtrfsRequest

namespace PartitioningRequest

/-- Writes a section of a partitioning request. -/
def encodeSection {α : Type} (name : String) (encode : α → Value) (items : List α) : Value :=
  .record [.always name (.sequence (items.map encode))]

/-- Reads a section of a partitioning request. -/
def decodeSection {α : Type} (name : String) (decode : Decoder α) : Decoder (List α) :=
  (Fields.withDefault name [] (Decoder.sequence decode)).closed

/-- Writes a partitioning request. -/
def encode (request : PartitioningRequest) : Value :=
  .record [
    .always "minsize" (Size.encode request.minSize),
    .whenSome "plain" (encodeSection "filesystems" FilesystemRequest.encode) request.plain,
    .whenSome "lvm" (encodeSection "volume_groups" VolumeGroupRequest.encode) request.lvm,
    .whenSome "btrfs" (encodeSection "volumes" BtrfsRequest.encode) request.btrfs]

/-- The fields of a partitioning request. -/
def fields : Fields PartitioningRequest :=
  PartitioningRequest.mk <$> .withDefault "minsize" 0 Size.decode
    <*> .optional "plain" (decodeSection "filesystems" FilesystemRequest.decode)
    <*> .optional "lvm" (decodeSection "volume_groups" VolumeGroupRequest.fields.closed)
    <*> .optional "btrfs" (decodeSection "volumes" BtrfsRequest.fields.closed)

/-- Reads a partitioning request. -/
def decode : Decoder PartitioningRequest := fields.closed

end PartitioningRequest

namespace Customizations

/-- Writes a customizations document. -/
def encode (customizations : Customizations) : Value :=
  .record [
    .whenNot customizations.filesystem.isEmpty "filesystem"
      (.sequence (customizations.filesystem.map FilesystemRequest.encode)),
    .whenSome "partitioning" PartitioningRequest.encode customizations.partitioning]

/-- The fields of a customizations document. -/
def fields : Fields Customizations :=
  Customizations.mk
    <$> .withDefault "filesystem" [] (Decoder.sequence FilesystemRequest.decode)
    <*> .optional "partitioning" PartitioningRequest.decode

/-- Reads a customizations document. -/
def decode : Decoder Customizations := fields.closed

end Customizations

end DiskLayout
