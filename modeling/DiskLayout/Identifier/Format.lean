import DiskLayout.Identifier.Uuid

/-!
# Formats of UUIDs

Which texts are read as a UUID, and what is written of a UUID, is decided by the library that
provides UUIDs.  Identifiers and partition types are read and written relative to such a format, and
what is relied on of it can be said without looking into it.  Documents use the standard format.

## Main definitions

* `UuidFormat` — how UUIDs are read from texts and written as texts
* `UuidFormat.standard` — the format of documents
-/

namespace DiskLayout

/-- How UUIDs are read from texts and written as texts. -/
structure UuidFormat where
  read? : String → Option Uuid
  write : Uuid → String

namespace UuidFormat

/-- The format of documents: any of the four spellings is read, and the hyphenated one written. -/
def standard : UuidFormat := ⟨Uuid.parse?, Uuid.render⟩

@[simp] theorem read?_standard : standard.read? = Uuid.parse? := rfl

@[simp] theorem write_standard : standard.write = Uuid.render := rfl

end UuidFormat

end DiskLayout
