import DiskLayout.Document.Profile
import DiskLayout.Flattened

/-!
# Flattened layouts in documents

The options of a device carry no mark of their kind: a disk image is tried first, then a logical
volume.

## Main definitions

* `Device.encode`, `Device.decode` — writing and reading a device
* `Mount.encode`, `Mount.decode` — writing and reading a mount
* `FlattenedLayout.encode`, `FlattenedLayout.decode` — writing and reading a flattened layout
-/

namespace DiskLayout

namespace DeviceOptions

/-- Writes the options of a device. -/
def encode : DeviceOptions → Value
  | loopback filename partscan =>
    .record [.always "filename" (.text filename), .whenNot (!partscan) "partscan" (.bool partscan)]
  | logicalVolume volume groupPartition =>
    .record [.always "volume" (.text volume), .whenSome "vg_partnum" .number groupPartition]

/-- The fields of a disk image. -/
def loopbackFields : Fields DeviceOptions :=
  loopback <$> .required "filename" Decoder.text <*> .withDefault "partscan" false Decoder.bool

/-- The fields of a logical volume. -/
def logicalVolumeFields : Fields DeviceOptions :=
  logicalVolume <$> .required "volume" Decoder.text
    <*> .optional "vg_partnum" (Decoder.natural Size.limit)

/-- Reads the options of a device. -/
def decode : Decoder DeviceOptions := fun source => do
  let kept ← Decoder.require source.keep?
  match loopbackFields.closed (.kept kept), logicalVolumeFields.closed (.kept kept) with
  | .ok options, _ => .ok options
  | .error _, .ok options => .ok options
  | .error _, .error _ => Decoder.refuse

end DeviceOptions

namespace Device

/-- Writes a device. -/
def encode (device : Device) : Value :=
  .record [
    .always "type" (.text device.kind.name),
    .whenSome "parent" .text device.parent,
    .always "options" device.options.encode]

/-- The fields of a device. -/
def fields : Fields Device :=
  Device.mk <$> .required "type" (Decoder.named DeviceKind.ofName?)
    <*> .optional "parent" Decoder.text
    <*> .required "options" DeviceOptions.decode

/-- Reads a device. -/
def decode : Decoder Device := fields.lenient

end Device

namespace MountOptions

/-- Writes the options of a mount. -/
def encode (options : MountOptions) : Value :=
  .record [
    .whenSome "subvol" .text options.subvolume,
    .whenSome "compress" .text options.compress]

/-- The fields of the options of a mount. -/
def fields : Fields MountOptions :=
  MountOptions.mk <$> .optional "subvol" Decoder.text <*> .optional "compress" Decoder.text

end MountOptions

namespace Mount

/-- Writes a mount. -/
def encode (mount : Mount) : Value :=
  .record [
    .always "name" (.text mount.name),
    .always "type" (.text mount.kind.name),
    .always "source" (.text mount.source),
    .always "target" (.text mount.target),
    .whenSome "partition" .number mount.partition,
    .whenSome "options" MountOptions.encode mount.options]

/-- The fields of a mount. -/
def fields : Fields Mount :=
  Mount.mk <$> .required "name" Decoder.text
    <*> .required "type" (Decoder.named MountKind.ofName?)
    <*> .required "source" Decoder.text
    <*> .required "target" Decoder.text
    <*> .optional "partition" (Decoder.natural Size.limit)
    <*> .optional "options" MountOptions.fields.closed

/-- Reads a mount. -/
def decode : Decoder Mount := fields.lenient

end Mount

namespace FlattenedLayout

/-- Writes a flattened layout. -/
def encode (layout : FlattenedLayout) : Value :=
  .record [
    .always "mounts" (.sequence (layout.mounts.map Mount.encode)),
    .always "devices" (layout.devices.encode Device.encode)]

/-- The fields of a flattened layout. -/
def fields : Fields FlattenedLayout :=
  FlattenedLayout.mk <$> .required "mounts" (Decoder.sequence Mount.decode)
    <*> .required "devices" (TextMap.decode Device.decode)

/-- Reads a flattened layout. -/
def decode : Decoder FlattenedLayout := fields.lenient

end FlattenedLayout

end DiskLayout
