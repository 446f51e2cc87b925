import DiskLayout.TextMap

/-!
# Document values

The values that documents are made of.  A value says itself what it is: whether it is a text, a
number or something else does not depend on what is expected in its place.

## Main definitions

* `Value` — a value of a document
* `Value.depth` — how deeply a value is nested
* `Value.sorted` — a value with its keys in order
* `Entry`, `Value.record` — the entries of a record, some of which may be left out
-/

namespace DiskLayout

/-- A value of a document. -/
inductive Value where
  | null
  | bool (value : Bool)
  /-- A number without fraction and exponent. -/
  | integer (value : Int)
  /-- Any other number, by a written form. -/
  | decimal (written : String)
  | text (text : String)
  | sequence (items : List Value)
  | mapping (entries : List (String × Value))
deriving Repr, Inhabited

namespace Value

/-- A natural number. -/
def number (n : Nat) : Value := integer (n : Int)

mutual

/-- How deeply a value is nested: 1 for scalars. -/
def depth : Value → Nat
  | sequence items => depthOfItems items + 1
  | mapping entries => depthOfEntries entries + 1
  | _ => 1

/-- The greatest depth in a list of values. -/
def depthOfItems : List Value → Nat
  | [] => 0
  | item :: others => max item.depth (depthOfItems others)

/-- The greatest depth among the values of entries. -/
def depthOfEntries : List (String × Value) → Nat
  | [] => 0
  | (_, value) :: others => max value.depth (depthOfEntries others)

end

mutual

/-- A value with the entries of its mappings in ascending order of their keys; of entries with the
same key the last stays. -/
def sorted : Value → Value
  | sequence items => sequence (sortedItems items)
  | mapping entries => mapping (TextMap.ofList (sortedEntries entries)).entries
  | value => value

/-- Items with their keys in order. -/
def sortedItems : List Value → List Value
  | [] => []
  | item :: others => item.sorted :: sortedItems others

/-- The values of entries with their keys in order. -/
def sortedEntries : List (String × Value) → List (String × Value)
  | [] => []
  | (key, value) :: others => (key, value.sorted) :: sortedEntries others

end

end Value

/-- An entry of a record, which may be left out. -/
structure Entry where
  written? : Option (String × Value)

namespace Entry

/-- An entry that is always written. -/
def always (name : String) (value : Value) : Entry := ⟨some (name, value)⟩

/-- An entry that is written where there is a value. -/
def whenSome {α : Type} (name : String) (encode : α → Value) (value : Option α) : Entry :=
  ⟨value.map fun value => (name, encode value)⟩

/-- An entry that is written unless its value is the default. -/
def whenNot (isDefault : Bool) (name : String) (value : Value) : Entry :=
  ⟨if isDefault then none else some (name, value)⟩

end Entry

/-- A record: a mapping of the entries that are written. -/
def Value.record (entries : List Entry) : Value := .mapping (entries.filterMap Entry.written?)

end DiskLayout
