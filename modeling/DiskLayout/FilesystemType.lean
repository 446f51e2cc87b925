import DiskLayout.Path
import DiskLayout.Size.Basic

/-!
# Filesystem types

## Main definitions

* `FilesystemType` — the filesystems that can be laid out
* `FilesystemType.name`, `FilesystemType.ofName?` — writing and reading
* `FilesystemType.leastSize` — the smallest device that holds a filesystem of the type
* `FilesystemType.passNumber` — when a filesystem is checked at boot
-/

namespace DiskLayout

/-- A filesystem that can be laid out on a block device. -/
inductive FilesystemType where
  | vfat
  | ext4
  | xfs
  | btrfs
deriving DecidableEq, Repr

namespace FilesystemType

/-- All filesystem types. -/
def all : List FilesystemType := [vfat, ext4, xfs, btrfs]

/-- The name of a filesystem type. -/
def name : FilesystemType → String
  | vfat => "vfat"
  | ext4 => "ext4"
  | xfs => "xfs"
  | btrfs => "btrfs"

/-- The filesystem type with a name. -/
def ofName? (text : String) : Option FilesystemType := all.find? fun type => type.name == text

/-- Whether filesystems of a type carry a serial number in place of a UUID. -/
def usesSerial : FilesystemType → Bool
  | vfat => true
  | _ => false

/-- The smallest device that can hold a filesystem of a type. -/
def leastSize : FilesystemType → Nat
  | vfat => 0
  | ext4 => Size.leastExt4
  | xfs => Size.leastXfs
  | btrfs => Size.leastBtrfs

/-- The pass in which a filesystem mounted at `mountpoint` is checked at boot: the root first, the
others second, and the types that check themselves never. -/
def passNumber (type : FilesystemType) (mountpoint : String) : Nat :=
  match type with
  | xfs | btrfs => 0
  | vfat | ext4 => if mountpoint = Path.root then 1 else 2

theorem ofName?_name (type : FilesystemType) : ofName? type.name = some type := by
  cases type <;> decide

end FilesystemType

end DiskLayout
