import DiskLayout.Document.Yaml.Node

/-!
# Kept values

What is kept of a part of a document until it is known what is expected in its place.  By then the
way it was written is gone: a kept value is a text, a number or something else once and for all,
and its integers fit 64 bits.  Keys of kept mappings may be values of any kind.

## Main definitions

* `Kept` — a kept value
* `Value.keep`, `Yaml.Node.keep?` — what is kept of values and of nodes
-/

namespace DiskLayout

/-- A value kept until it is known what is expected in its place. -/
inductive Kept where
  | null
  | bool (value : Bool)
  | integer (value : Int)
  | decimal (written : String)
  | text (text : String)
  | sequence (items : List Kept)
  | mapping (entries : List (Kept × Kept))
deriving Repr, Inhabited

/-- The least integer that can be kept. -/
def leastKept : Int := -9223372036854775808

/-- The first integer that can no longer be kept. -/
def keptLimit : Int := 18446744073709551616

mutual

/-- What is kept of a value. -/
def Value.keep : Value → Kept
  | .null => .null
  | .bool value => .bool value
  | .integer value => .integer value
  | .decimal written => .decimal written
  | .text content => .text content
  | .sequence items => .sequence (keepItems items)
  | .mapping entries => .mapping (keepEntries entries)

/-- What is kept of items. -/
def Value.keepItems : List Value → List Kept
  | [] => []
  | item :: others => item.keep :: keepItems others

/-- What is kept of entries. -/
def Value.keepEntries : List (String × Value) → List (Kept × Kept)
  | [] => []
  | (key, value) :: others => (.text key, value.keep) :: keepEntries others

end

namespace Kept

/-- A kept value that has no parts, as a value. -/
def scalar? : Kept → Option Value
  | null => some .null
  | bool value => some (.bool value)
  | integer value => some (.integer value)
  | decimal written => some (.decimal written)
  | text content => some (.text content)
  | _ => none

/-- What is kept of a scalar, unless it is an integer beyond 64 bits. -/
def ofScalar? : Value → Option Kept
  | .integer value => if leastKept ≤ value ∧ value < keptLimit then some (integer value) else none
  | value => some value.keep

mutual

/-- How deeply a kept value is nested: 1 for scalars. -/
def depth : Kept → Nat
  | sequence items => depthOfItems items + 1
  | mapping entries => depthOfEntries entries + 1
  | _ => 1

/-- The greatest depth in a list of kept values. -/
def depthOfItems : List Kept → Nat
  | [] => 0
  | item :: others => max item.depth (depthOfItems others)

/-- The greatest depth among keys and values. -/
def depthOfEntries : List (Kept × Kept) → Nat
  | [] => 0
  | (key, value) :: others => max (max key.depth value.depth) (depthOfEntries others)

end

end Kept

namespace Yaml

mutual

/-- What is kept of a node.  Nothing can be kept of a node whose tag names a case, nor of a scalar
that its tag forbids. -/
def Node.keep? : Node → Option Kept
  | .scalar tag? style text => ((Node.scalar tag? style text).resolve?).bind Kept.ofScalar?
  | .sequence (some (.case _)) _ => none
  | .sequence _ items => (keepItems? items).map .sequence
  | .mapping (some (.case _)) _ => none
  | .mapping _ entries => (keepEntries? entries).map .mapping

/-- What is kept of items. -/
def Node.keepItems? : List Node → Option (List Kept)
  | [] => some []
  | item :: others => do
    let first ← item.keep?
    let others ← keepItems? others
    return first :: others

/-- What is kept of keys and values. -/
def Node.keepEntries? : List (Node × Node) → Option (List (Kept × Kept))
  | [] => some []
  | (key, value) :: others => do
    let key ← key.keep?
    let value ← value.keep?
    let others ← keepEntries? others
    return (key, value) :: others

end

end Yaml

end DiskLayout
