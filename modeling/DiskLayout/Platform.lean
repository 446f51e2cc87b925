import DiskLayout.Architecture
import DiskLayout.Path

/-!
# Platforms

## Main definitions

* `BootMode` — the firmware interface an image boots with
* `Platform` — processor, firmware and boot loader vendor
* `Platform.bootsUefi`, `Platform.requiredMountpoints` — what booting needs
-/

namespace DiskLayout

/-- The firmware interface an image boots with. -/
inductive BootMode where
  | legacy
  | uefi
  | hybrid
  | none
deriving DecidableEq, Repr, Inhabited

namespace BootMode

/-- All boot modes. -/
def all : List BootMode := [legacy, uefi, hybrid, none]

/-- The name of a boot mode. -/
def name : BootMode → String
  | legacy => "legacy"
  | uefi => "uefi"
  | hybrid => "hybrid"
  | none => "none"

/-- The boot mode with a name. -/
def ofName? (text : String) : Option BootMode := all.find? fun mode => mode.name == text

/-- Whether a boot mode includes UEFI. -/
def isUefi : BootMode → Bool
  | uefi | hybrid => true
  | legacy | none => false

/-- Whether a boot mode includes BIOS. -/
def isLegacy : BootMode → Bool
  | legacy | hybrid => true
  | uefi | none => false

end BootMode

/-- The platform an image is made for. -/
structure Platform where
  architecture : Architecture
  bootMode : BootMode
  /-- The vendor directory of the EFI boot loader. -/
  uefiVendor : Option String
deriving DecidableEq, Repr

namespace Platform

/-- The platform of a document that names none. -/
def standard : Platform := ⟨.amd64, .hybrid, none⟩

/-- Whether an EFI boot loader is installed. -/
def bootsUefi (platform : Platform) : Bool :=
  platform.bootMode.isUefi || platform.uefiVendor.isSome

/-- The mountpoints without which the platform does not boot, in ascending order. -/
def requiredMountpoints (platform : Platform) : List String :=
  if platform.bootsUefi then [Path.root, Path.esp] else [Path.root]

end Platform

end DiskLayout
