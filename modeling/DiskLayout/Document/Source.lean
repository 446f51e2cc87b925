import DiskLayout.Document.Kept

/-!
# Sources

What a value of the domain is read from: a value, a node whose meaning depends on what is
expected, or something kept.  The three agree on what can be read and differ in how it may be
written; all that differs is here.

## Main definitions

* `Source` — what is read
* `Source.text?`, `Source.bool?`, `Source.natural?`, `Source.scalar?` — reading scalars
* `Source.items?`, `Source.entries?` — reading collections
* `CaseLabel`, `Source.case?` — reading a choice between cases
-/

namespace DiskLayout

/-- What a value of the domain is read from. -/
inductive Source where
  | value (value : Value)
  | node (node : Yaml.Node)
  | kept (kept : Kept)

instance : Coe Value Source := ⟨Source.value⟩

/-- What tells a case from the others: its name, or its number in the order of declaration. -/
inductive CaseLabel where
  | name (name : String)
  | number (number : Nat)
deriving DecidableEq, Repr

namespace Source

/-- How deeply a source is nested: 1 for scalars. -/
def depth : Source → Nat
  | value given => given.depth
  | node part => part.depth
  | kept saved => saved.depth

/-- A text. -/
def text? : Source → Option String
  | value (.text text) => some text
  | node part => part.text?
  | kept (.text text) => some text
  | _ => none

/-- A truth value. -/
def bool? : Source → Option Bool
  | value (.bool truth) => some truth
  | node part => part.bool?
  | kept (.bool truth) => some truth
  | _ => none

/-- A natural number. -/
def natural? : Source → Option Nat
  | value (.integer number) => number.toNat?
  | node part => part.natural?
  | kept (.integer number) => number.toNat?
  | _ => none

/-- A scalar of any kind. -/
def scalar? : Source → Option Value
  | value given => some given
  | node part => part.resolve?
  | kept saved => saved.scalar?

/-- Whether there is anything where nothing may be; an error if that is contradictory. -/
def isPresent? : Source → Option Bool
  | value .null => some false
  | node part => part.isPresent?
  | kept .null => some false
  | _ => some true

/-- The items of a sequence; a node that is left out has none. -/
def items? : Source → Option (List Source)
  | value (.sequence items) => some (items.map value)
  | node (.sequence _ items) => some (items.map node)
  | node part => if part.isBlank then some [] else none
  | kept (.sequence items) => some (items.map kept)
  | _ => none

/-- The entries of a mapping, all of whose keys must be texts; a node that is left out has none. -/
def entries? : Source → Option (List (String × Source))
  | value (.mapping entries) => some (entries.map fun entry => (entry.1, value entry.2))
  | node (.mapping _ entries) =>
    entries.mapM fun entry => entry.1.text?.map fun key => (key, node entry.2)
  | node part => if part.isBlank then some [] else none
  | kept (.mapping entries) =>
    entries.mapM fun entry => (kept entry.1).text?.map fun key => (key, kept entry.2)
  | _ => none

/-- The items that may stand for a record: nodes always name the parts of a record. -/
def listed? : Source → Option (List Source)
  | node _ => none
  | source => source.items?

/-- Whether a tag says which case a source is. -/
def isTaggedCase : Source → Bool
  | node part => part.case?.isSome
  | _ => false

/-- Whether nothing is carried by a case. -/
def isNothing : Source → Bool
  | value .null => true
  | node (.scalar none .plain text) => text = "" || Scalar.isNull text
  | kept .null => true
  | kept (.mapping []) => true
  | _ => false

/-- The label that a kept key is. -/
def labelOf? : Kept → Option CaseLabel
  | .text name => some (.name name)
  | .integer number => number.toNat?.map .number
  | _ => none

/-- The label of a case, and what the case carries if anything: a text, a mapping with a single
key, or a node behind a tag. -/
def case? : Source → Option (CaseLabel × Option Source)
  | value (.text name) => some (.name name, none)
  | value (.mapping [(name, content)]) => some (.name name, some (value content))
  | node part =>
    match part.case? with
    | some name => some (.name name, some (node part.untagged))
    | none => part.text?.map fun name => (.name name, none)
  | kept (.text name) => some (.name name, none)
  | kept (.mapping [(key, content)]) =>
    (labelOf? key).map fun label => (label, some (kept content))
  | _ => none

/-- What is kept of a source. -/
def keep? : Source → Option Kept
  | value given => some given.keep
  | node part => part.keep?
  | kept saved => some saved

end Source

end DiskLayout
