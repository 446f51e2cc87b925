import DiskLayout.Identifier.Format

/-!
# Volume identifiers

Filesystems, volumes and disks carry an identifier that is a UUID where the format has one, and
otherwise a text of the format's own, such as the serial number of a FAT filesystem or the eight
digits of a DOS disk.

## Main definitions

* `VolumeId` — an identifier of either kind
* `VolumeId.readIn`, `VolumeId.writeIn` — reading and writing in a format of UUIDs
* `VolumeId.ofText`, `VolumeId.toText` — reading and writing in the standard format
* `VolumeId.fatSerial`, `VolumeId.dosDisk` — the short identifiers made from random bytes
-/

namespace DiskLayout

/-- The identifier of a volume: a UUID or a text kept as it is. -/
inductive VolumeId where
  | uuid (uuid : Uuid)
  | verbatim (text : String)
deriving DecidableEq, Repr

namespace VolumeId

/-- Reads an identifier: the UUID where the text is read as one, else the text itself. -/
def readIn (format : UuidFormat) (text : String) : VolumeId :=
  match format.read? text with
  | some value => .uuid value
  | none => .verbatim text

/-- Writes an identifier. -/
def writeIn (format : UuidFormat) : VolumeId → String
  | .uuid value => format.write value
  | .verbatim text => text

/-- Reads an identifier in the standard format. -/
def ofText (text : String) : VolumeId := readIn .standard text

/-- Writes an identifier in the standard format. -/
def toText (id : VolumeId) : String := id.writeIn .standard

/-- The UUID that an identifier is, if it is one. -/
def uuid? : VolumeId → Option Uuid
  | .uuid value => some value
  | .verbatim _ => none

/-- The random UUID made from sixteen bytes. -/
def random (bytes : Vector UInt8 16) : VolumeId := .uuid (Uuid.ofRandomBytes bytes)

/-- The serial number of a FAT filesystem: four bytes in capital hexadecimal digits, in two
groups. -/
def fatSerial (bytes : Vector UInt8 16) : VolumeId :=
  let digits (byte : UInt8) := (hexDigits 2 byte.toNat).map Char.toUpper
  .verbatim (String.ofList
    (digits bytes[0] ++ digits bytes[1] ++ ['-'] ++ digits bytes[2] ++ digits bytes[3]))

/-- The identifier of a DOS disk: four bytes in lowercase hexadecimal digits. -/
def dosDisk (bytes : Vector UInt8 16) : VolumeId :=
  let digits (byte : UInt8) := hexDigits 2 byte.toNat
  .verbatim (String.ofList
    (digits bytes[0] ++ digits bytes[1] ++ digits bytes[2] ++ digits bytes[3]))

end VolumeId

end DiskLayout
