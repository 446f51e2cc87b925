import DiskLayout.Identifier.Uuid
import DiskLayout.Random.Keystream

/-!
# Random sources

Identifiers are made from a stream of bytes, sixteen bytes a draw, each draw taking up where the
one before it ended.

## Main definitions

* `RandomSource` — a stream of bytes and how much of it has been drawn
* `RandomSource.ofSeed` — the source that a seed determines
* `RandomSource.draw` — the next sixteen bytes
* `RandomSource.drawUuid` — a random UUID
-/

namespace DiskLayout

/-- A stream of random bytes with the position of the next byte to be drawn. -/
structure RandomSource where
  stream : Nat → UInt8
  position : Nat

namespace RandomSource

/-- The source at the start of the key stream of a seed. -/
def ofSeed (seed : Nat) : RandomSource :=
  let key := Keystream.keyOfSeed seed
  { stream := Keystream.byteAt key, position := 0 }

/-- The sixteen bytes of a stream from a position on. -/
def bytesAt (stream : Nat → UInt8) (position : Nat) : Vector UInt8 16 :=
  Vector.ofFn fun i => stream (position + i.val)

/-- The source after `count` draws. -/
def advance (source : RandomSource) (count : Nat) : RandomSource :=
  { source with position := source.position + 16 * count }

/-- Draws the next sixteen bytes. -/
def draw : StateM RandomSource (Vector UInt8 16) := fun source =>
  (bytesAt source.stream source.position, source.advance 1)

/-- Draws a random UUID. -/
def drawUuid : StateM RandomSource Uuid := do
  return Uuid.ofRandomBytes (← draw)

end RandomSource

end DiskLayout
