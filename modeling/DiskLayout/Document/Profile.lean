import DiskLayout.Document.Table
import DiskLayout.Profile

/-!
# Policies, platforms and profiles in documents

## Main definitions

* `TextMap.encode`, `TextMap.decode` — writing and reading a map; of repeated keys the last counts
* `MountPolicy.encode`, `MountPolicy.decode` — writing and reading a policy
* `Platform.encode`, `Platform.decode` — writing and reading a platform
* `ImageProfile.encode`, `ImageProfile.decode` — writing and reading a profile
-/

namespace DiskLayout

/-- Writes a map. -/
def TextMap.encode {α : Type} (encode : α → Value) (map : TextMap α) : Value :=
  .mapping (map.entries.map fun entry => (entry.1, encode entry.2))

/-- Reads a map. -/
def TextMap.decode {α : Type} (decode : Decoder α) : Decoder (TextMap α) := fun source =>
  (Decoder.entries decode source).map TextMap.ofList

namespace PathRule

/-- Writes a rule. -/
def encode (rule : PathRule) : Value :=
  .record [.always "exact" (.bool rule.exact), .always "deny" (.bool rule.deny)]

/-- The fields of a rule. -/
def fields : Fields PathRule :=
  PathRule.mk <$> .withDefault "exact" false Decoder.bool
    <*> .withDefault "deny" false Decoder.bool

end PathRule

namespace MountPolicy

/-- Writes a policy. -/
def encode (policy : MountPolicy) : Value := policy.rules.encode PathRule.encode

/-- Reads a policy. -/
def decode : Decoder MountPolicy := fun source =>
  (TextMap.decode PathRule.fields.closed source).map MountPolicy.mk

end MountPolicy

/-- Writes an architecture. -/
def Architecture.encode (architecture : Architecture) : Value := .text architecture.name

/-- Reads an architecture. -/
def Architecture.decode : Decoder Architecture := fun source => do
  let text ← Decoder.text source
  match Architecture.ofName? text with
  | some architecture => return architecture
  | none =>
    .error (.because ("unknown system architecture '" ++ Lowercase.lower text ++ "'"))

/-- Writes a boot mode. -/
def BootMode.encode (mode : BootMode) : Value := .text mode.name

/-- Reads a boot mode. -/
def BootMode.decode : Decoder BootMode := Decoder.named BootMode.ofName?

/-- Writes a partitioning mode. -/
def PartitioningMode.encode (mode : PartitioningMode) : Value := .text mode.name

/-- Reads a partitioning mode. -/
def PartitioningMode.decode : Decoder PartitioningMode := Decoder.named PartitioningMode.ofName?

namespace Platform

/-- Writes a platform. -/
def encode (platform : Platform) : Value :=
  .record [
    .always "arch" platform.architecture.encode,
    .always "bootMode" platform.bootMode.encode,
    .whenSome "uefiVendor" .text platform.uefiVendor]

/-- The fields of a platform. -/
def fields : Fields Platform :=
  Platform.mk <$> .withDefault "arch" .amd64 Architecture.decode
    <*> .withDefault "bootMode" .hybrid BootMode.decode
    <*> .optional "uefiVendor" Decoder.text

/-- Reads a platform. -/
def decode : Decoder Platform := fields.closed

end Platform

namespace ImageProfile

/-- Writes a profile. -/
def encode (profile : ImageProfile) : Value :=
  .record [
    .whenSome "name" .text profile.name,
    .always "basePartitionTable" profile.baseTable.encode,
    .always "minSize" (Size.encode profile.minSize),
    .always "partitioningMode" profile.mode.encode,
    .always "requiredSizes" (profile.requiredSizes.encode Size.encode),
    .always "mountpointPolicy" profile.policy.encode,
    .always "platform" profile.platform.encode,
    .always "defaultFsType" profile.defaultFilesystem.encode]

/-- The fields of a profile. -/
def fields : Fields ImageProfile :=
  ImageProfile.mk <$> .optional "name" Decoder.text
    <*> .required "basePartitionTable" PartitionTable.decode
    <*> .withDefault "minSize" 0 Size.decode
    <*> .withDefault "partitioningMode" .autoLvm PartitioningMode.decode
    <*> .withDefault "requiredSizes" defaultRequiredSizes (TextMap.decode Size.decode)
    <*> .withDefault "mountpointPolicy" MountPolicy.standard MountPolicy.decode
    <*> .withDefault "platform" Platform.standard Platform.decode
    <*> .withDefault "defaultFsType" .xfs FilesystemType.decode

/-- Reads a profile. -/
def decode : Decoder ImageProfile := fields.closed

end ImageProfile

end DiskLayout
