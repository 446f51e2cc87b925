import DiskLayout.Identifier.Format

/-!
# Partition types

Every partition of a disk is marked with the type of its contents, a GUID.  The well-known types
have names; any other GUID is kept as it is.

## Main definitions

* `PartitionType` — the well-known types and all others
* `PartitionType.known` — the well-known types
* `PartitionType.name`, `PartitionType.guid` — name and GUID of a type
* `PartitionType.ofName?`, `PartitionType.ofGuid` — the type with a name, with a GUID
* `PartitionType.parseIn?`, `PartitionType.renderIn` — reading and writing in a format of UUIDs
* `PartitionType.parse?`, `PartitionType.render` — reading and writing in the standard format
-/

namespace DiskLayout

/-- The type of a partition's contents. -/
inductive PartitionType where
  /-- The second stage of a BIOS boot loader. -/
  | biosBoot
  /-- The EFI system partition. -/
  | esp
  /-- The extended boot loader partition. -/
  | xbootldr
  /-- Swap space. -/
  | swap
  /-- Home directories. -/
  | home
  /-- Server data. -/
  | srv
  /-- Variable data. -/
  | var
  /-- Temporary data. -/
  | tmp
  /-- Any Linux filesystem. -/
  | linuxGeneric
  /-- A physical volume of a volume group. -/
  | lvm
  /-- The root filesystem on 64-bit x86. -/
  | rootAmd64
  /-- The `/usr` filesystem on 64-bit x86. -/
  | usrAmd64
  /-- The root filesystem on 64-bit ARM. -/
  | rootArm64
  /-- The `/usr` filesystem on 64-bit ARM. -/
  | usrArm64
  /-- A type without a name. -/
  | other (guid : Uuid)
deriving DecidableEq, Repr

namespace PartitionType

/-- The well-known types. -/
def known : List PartitionType :=
  [biosBoot, esp, xbootldr, swap, home, srv, var, tmp, linuxGeneric, lvm, rootAmd64, usrAmd64,
    rootArm64, usrArm64]

/-- The name of a type; all types without a name share one word. -/
def name : PartitionType → String
  | biosBoot => "bios-boot"
  | esp => "esp"
  | xbootldr => "xbootldr"
  | swap => "swap"
  | home => "home"
  | srv => "srv"
  | var => "var"
  | tmp => "tmp"
  | linuxGeneric => "linux-generic"
  | lvm => "lvm"
  | rootAmd64 => "root-x86-64"
  | usrAmd64 => "usr-x86-64"
  | rootArm64 => "root-arm64"
  | usrArm64 => "usr-arm64"
  | other _ => "unknown"

/-- The GUID of a type. -/
def guid : PartitionType → Uuid
  | biosBoot => ⟨0x2168614864496e6f744e656564454649#128⟩
  | esp => ⟨0xc12a7328f81f11d2ba4b00a0c93ec93b#128⟩
  | xbootldr => ⟨0xbc13c2ff59e64262a352b275fd6f7172#128⟩
  | swap => ⟨0x0657fd6da4ab43c484e50933c84b4f4f#128⟩
  | home => ⟨0x933ac7e12eb44f13b8440e14e2aef915#128⟩
  | srv => ⟨0x3b8f842520e04f3b907f1a25a76f98e8#128⟩
  | var => ⟨0x4d21b016b53445c2a9fb5c16e091fd2d#128⟩
  | tmp => ⟨0x7ec6f5573bc54acab29316ef5df639d1#128⟩
  | linuxGeneric => ⟨0x0fc63daf848347728e793d69d8477de4#128⟩
  | lvm => ⟨0xe6d6d379f50744c2a23c238f2a3df928#128⟩
  | rootAmd64 => ⟨0x4f68bce3e8cd4db196e7fbcaf984b709#128⟩
  | usrAmd64 => ⟨0x8484680c952148c69c11b0720656f69e#128⟩
  | rootArm64 => ⟨0xb921b0451df041c3af444c6f280d3fae#128⟩
  | usrArm64 => ⟨0xb0e01050ee5f4390949a9101b17104e9#128⟩
  | other guid => guid

/-- The well-known type with a name. -/
def ofName? (text : String) : Option PartitionType := known.find? fun type => type.name == text

/-- The type with a GUID. -/
def ofGuid (guid : Uuid) : PartitionType :=
  (known.find? fun type => type.guid == guid).getD (other guid)

/-- Whether a type has no name. -/
def isOther : PartitionType → Bool
  | other _ => true
  | _ => false

/-- Whether a type marks a root filesystem. -/
def isRoot : PartitionType → Bool
  | rootAmd64 | rootArm64 => true
  | _ => false

/-- Reads a type: the GUID where the text is read as a UUID, else the name of a well-known type. -/
def parseIn? (format : UuidFormat) (text : String) : Option PartitionType :=
  match format.read? text with
  | some guid => some (ofGuid guid)
  | none => ofName? text

/-- Writes a type: its name, or its GUID where it has none. -/
def renderIn (format : UuidFormat) : PartitionType → String
  | other guid => format.write guid
  | type => type.name

/-- Reads a type in the standard format. -/
def parse? (text : String) : Option PartitionType := parseIn? .standard text

/-- Writes a type in the standard format. -/
def render (type : PartitionType) : String := type.renderIn .standard

theorem ofName?_name_of_mem {type : PartitionType} (h : type ∈ known) :
    ofName? type.name = some type := by
  revert type
  decide

theorem ofGuid_guid_of_mem {type : PartitionType} (h : type ∈ known) :
    ofGuid type.guid = type := by
  revert type
  decide

end PartitionType

end DiskLayout
