import DiskLayout.Document.Scalar

/-!
# Nodes

The parts of a YAML document.  What a node is depends on what is expected in its place: an
unquoted `5` is a text where a text is expected and a number where a number is.  The style in
which a scalar is written and the tag in front of a node say more about it.

## Main definitions

* `Tag`, `ScalarStyle`, `Node` — tags, styles of scalars, nodes
* `Node.text?`, `Node.bool?`, `Node.natural?`, `Node.isPresent?` — what a node is where a text, a
  truth value, a natural number or nothing may be expected
* `Node.resolve?` — what a scalar is where anything may stand
-/

namespace DiskLayout.Yaml

/-- The kinds of scalars that a tag can demand. -/
inductive ScalarKind where
  | null
  | bool
  | integer
  | decimal
deriving DecidableEq, Repr

namespace ScalarKind

/-- All kinds of scalars. -/
def all : List ScalarKind := [null, bool, integer, decimal]

/-- The tag that demands a kind of scalar. -/
def tagName : ScalarKind → String
  | null => "tag:yaml.org,2002:null"
  | bool => "tag:yaml.org,2002:bool"
  | integer => "tag:yaml.org,2002:int"
  | decimal => "tag:yaml.org,2002:float"

/-- What a text is as a scalar of a kind, if it can be one. -/
def value? (kind : ScalarKind) (text : String) : Option Value :=
  match kind with
  | null => if Scalar.isNull text then some .null else none
  | bool => (Scalar.bool? text).map .bool
  | integer => (Scalar.integer? text).map .integer
  | decimal => if Scalar.isDecimal text then some (.decimal text) else none

end ScalarKind

/-- What the tag in front of a node says. -/
inductive Tag where
  /-- The node is the case with a name. -/
  | case (name : String)
  /-- The same, but the bytes of the name are no text. -/
  | garbled
  /-- The node is a scalar of a kind. -/
  | kind (kind : ScalarKind)
  /-- Anything else; such a tag only keeps a scalar from being taken for anything but a text. -/
  | foreign
deriving DecidableEq, Repr

/-- The tag that bytes spell: a case behind an exclamation mark, or the name of a kind. -/
def Tag.ofBytes (bytes : List UInt8) : Tag :=
  match bytes with
  | 0x21 :: name =>
    match String.fromUTF8? ⟨name.toArray⟩ with
    | some name => case name
    | none => garbled
  | _ =>
    match ScalarKind.all.find? fun kind => kind.tagName.toUTF8.toList == bytes with
    | some found => kind found
    | none => foreign

/-- How a scalar is written: without quotes, as a block whose line ends are kept, or in any other
way. -/
inductive ScalarStyle where
  | plain
  | literal
  | quoted
deriving DecidableEq, Repr

/-- A part of a YAML document. -/
inductive Node where
  | scalar (tag? : Option Tag) (style : ScalarStyle) (text : String)
  | sequence (tag? : Option Tag) (items : List Node)
  | mapping (tag? : Option Tag) (entries : List (Node × Node))
deriving Repr, Inhabited

namespace Node

/-- A scalar that is left out. -/
def blank : Node := scalar none .plain ""

/-- The tag of a node. -/
def tag? : Node → Option Tag
  | scalar tag? _ _ => tag?
  | sequence tag? _ => tag?
  | mapping tag? _ => tag?

/-- A node without its tag. -/
def untagged : Node → Node
  | scalar _ style text => scalar none style text
  | sequence _ items => sequence none items
  | mapping _ entries => mapping none entries

/-- The case that the tag of a node names. -/
def case? (node : Node) : Option String :=
  match node.tag? with
  | some (.case name) => some name
  | _ => none

/-- The text of a scalar, however it is written. -/
def text? : Node → Option String
  | scalar _ _ text => some text
  | _ => none

/-- Whether a node is a scalar that is left out, for which an empty collection may stand. -/
def isBlank : Node → Bool
  | scalar _ .plain "" => true
  | _ => false

/-- What a scalar spells where a kind of scalar is expected: it is unquoted, or a block whose tag
demands the kind. -/
def spelling? (expected : ScalarKind) : Node → Option String
  | scalar _ .plain text => some text
  | scalar (some (.kind kind)) .literal text => if kind = expected then some text else none
  | _ => none

/-- The truth value that a node is. -/
def bool? (node : Node) : Option Bool := (node.spelling? .bool).bind Scalar.bool?

/-- The natural number that a node is. -/
def natural? (node : Node) : Option Nat := (node.spelling? .integer).bind Scalar.natural?

/-- Whether there is anything where nothing may be; it is an error where a tag demands nothing of
a scalar that is something. -/
def isPresent? : Node → Option Bool
  | scalar none .plain text => some (text ≠ "" && !Scalar.isNull text)
  | scalar (some (.kind .null)) .plain text => if Scalar.isNull text then some false else none
  | _ => some true

/-- What a scalar is where anything may stand.  The name of a case makes it none of the scalars
that there are. -/
def resolve? : Node → Option Value
  | scalar (some (.case _)) _ _ => none
  | scalar (some (.kind kind)) _ text => kind.value? text
  | scalar (some .garbled) .plain text => some (Scalar.resolve text)
  | scalar none .plain text => some (Scalar.resolve text)
  | scalar _ _ text => some (.text text)
  | _ => none

mutual

/-- How deeply a node is nested: 1 for scalars. -/
def depth : Node → Nat
  | scalar _ _ _ => 1
  | sequence _ items => depthOfItems items + 1
  | mapping _ entries => depthOfEntries entries + 1

/-- The greatest depth in a list of nodes. -/
def depthOfItems : List Node → Nat
  | [] => 0
  | item :: others => max item.depth (depthOfItems others)

/-- The greatest depth among keys and values. -/
def depthOfEntries : List (Node × Node) → Nat
  | [] => 0
  | (key, value) :: others => max (max key.depth value.depth) (depthOfEntries others)

end

end Node

end DiskLayout.Yaml
