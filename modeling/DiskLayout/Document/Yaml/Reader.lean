import DiskLayout.Document.Yaml.Draft
import DiskLayout.Document.Yaml.Token

/-!
# Reading YAML

The tokens of a text make up one document, and the document is one node.  Block collections,
flow collections and sequences that are not indented below their key differ in how their parts are
separated; whatever is left out between separators is a scalar without text.

## Main definitions

* `Yaml.Reading`, `Yaml.Reader` — what is still to be read, and what reads it
* `Yaml.part` — one part of a document
* `Yaml.read` — the node of a text
-/

namespace DiskLayout.Yaml

/-- What is still to be read, with the numbers of the anchors and the handles of tags met so
far. -/
structure Reading where
  tokens : List Token
  anchors : List (String × Nat)
  handles : List (String × List UInt8)

/-- What reads a part of a document, or refuses. -/
abbrev Reader (α : Type) := StateT Reading Option α

namespace Reader

/-- Refuses. -/
def refuse {α : Type} : Reader α := fun _ => none

/-- The next token. -/
def peek : Reader (Option Token) := do return (← get).tokens.head?

/-- Passes the next token. -/
def skip : Reader Unit := modify fun reading => { reading with tokens := reading.tokens.drop 1 }

/-- Passes a token that must stand next. -/
def expect (token : Token) : Reader Unit := do
  if (← peek) = some token then skip else refuse

/-- Whether one of some tokens stands next. -/
def seesOneOf (tokens : List Token) : Reader Bool := do
  match ← peek with
  | some token => return tokens.contains token
  | none => return false

/-- Whether a token stands next. -/
def sees (token : Token) : Reader Bool := seesOneOf [token]

end Reader

open Reader

/-- The handles that every document knows. -/
def standardHandles : List (String × List UInt8) :=
  [("!", "!".toUTF8.toList), ("!!", "tag:yaml.org,2002:".toUTF8.toList)]

/-- The tag that a handle and a suffix stand for. -/
def resolveTag (handle : String) (suffix : List UInt8) : Reader Tag := do
  if handle = "" then return Tag.ofBytes suffix
  match (← get).handles.find? fun entry => entry.1 == handle with
  | some entry => return Tag.ofBytes (entry.2 ++ suffix)
  | none => refuse

/-- Reads the tag that may stand next. -/
def tagHere : Reader (Option Tag) := do
  match ← peek with
  | some (.tag handle suffix) =>
    skip
    return some (← resolveTag handle suffix)
  | _ => return none

/-- Reads the anchor that may stand next. -/
def anchorHere : Reader (Option String) := do
  match ← peek with
  | some (.anchor name) =>
    skip
    return some name
  | _ => return none

/-- The number of the anchor that a part has from here on: the number of the different names that
anchors have had so far.  An earlier part with the same name gives the name up. -/
def numberAnchor (name : String) : Reader Nat := do
  let anchors := (← get).anchors
  let number := anchors.length
  let others := anchors.filter fun entry => entry.1 != name
  modify fun reading => { reading with anchors := (name, number) :: others }
  return number

/-- The number of the anchor with a name. -/
def anchorNumber (name : String) : Reader Nat := do
  match (← get).anchors.find? fun entry => entry.1 == name with
  | some entry => return entry.2
  | none => refuse

/-- Reads what stands in front of a part: an anchor and a tag in either order, or one of them. -/
def marks : Reader Marks := do
  let (anchor?, tag?) ←
    match ← anchorHere with
    | some anchor => pure (some anchor, ← tagHere)
    | none =>
      match ← tagHere with
      | some tag => pure (← anchorHere, some tag)
      | none => pure (none, none)
  return ⟨← anchor?.mapM numberAnchor, tag?⟩

/-- Where a part stands: block collections are only known in block context, and a sequence whose
items are not indented only below a key. -/
inductive Context where
  | block
  | blockBelowKey
  | flow
deriving DecidableEq, Repr

/-- Whether a token opens a collection. -/
def Context.opens (context : Context) : Token → Bool
  | .openSequence | .openMapping => true
  | .sequenceStart | .mappingStart => context ≠ .flow
  | .item => context = .blockBelowKey
  | _ => false

mutual

/-- Reads one part; `fuel` bounds the number of tokens and `depth` that of nested collections. -/
def part (fuel depth : Nat) (context : Context) : Reader Draft :=
  match fuel with
  | 0 => refuse
  | fuel + 1 => do
    match ← peek with
    | some (.alias name) =>
      skip
      return .reference (← anchorNumber name)
    | _ =>
      let marks ← marks
      match ← peek with
      | some (.scalar style text) =>
        skip
        return .scalar marks style text
      | token? =>
        match token?.filter context.opens, depth with
        | some token, depth + 1 => collection fuel depth marks token
        | some _, 0 => refuse
        | none, _ =>
          if marks.anchor?.isNone && marks.tag?.isNone then refuse
          else return .scalar marks .plain ""

/-- Reads the collection that a token opens. -/
def collection (fuel depth : Nat) (marks : Marks) (token : Token) : Reader Draft :=
  match fuel with
  | 0 => refuse
  | fuel + 1 => do
    match token with
    | .sequenceStart =>
      skip
      return .sequence marks (← blockItems fuel depth)
    | .item => return .sequence marks (← looseItems fuel depth)
    | .mappingStart =>
      skip
      return .mapping marks (← blockEntries fuel depth)
    | .openSequence =>
      skip
      return .sequence marks (← flowItems fuel depth true)
    | .openMapping =>
      skip
      return .mapping marks (← flowEntries fuel depth true)
    | _ => refuse

/-- Reads a part, or takes a scalar without text where one of some tokens stands next. -/
def partUnless (fuel depth : Nat) (context : Context) (tokens : List Token) : Reader Draft :=
  match fuel with
  | 0 => refuse
  | fuel + 1 => do
    if (← seesOneOf tokens) then return Draft.blank
    part fuel depth context

/-- Reads the items of a block sequence. -/
def blockItems (fuel depth : Nat) : Reader (List Draft) :=
  match fuel with
  | 0 => refuse
  | fuel + 1 => do
    if (← sees .blockEnd) then
      skip
      return []
    expect .item
    let first ← partUnless fuel depth .block [.item, .blockEnd]
    return first :: (← blockItems fuel depth)

/-- Reads the items of a sequence that is not indented below its key. -/
def looseItems (fuel depth : Nat) : Reader (List Draft) :=
  match fuel with
  | 0 => refuse
  | fuel + 1 => do
    if (← sees .item) then
      skip
      let first ← partUnless fuel depth .block [.item, .key, .value, .blockEnd]
      return first :: (← looseItems fuel depth)
    else return []

/-- Reads the entries of a block mapping. -/
def blockEntries (fuel depth : Nat) : Reader (List (Draft × Draft)) :=
  match fuel with
  | 0 => refuse
  | fuel + 1 => do
    if (← sees .blockEnd) then
      skip
      return []
    expect .key
    let key ← partUnless fuel depth .blockBelowKey [.key, .value, .blockEnd]
    let value ← valueAfter fuel depth .blockBelowKey [.key, .value, .blockEnd]
    return (key, value) :: (← blockEntries fuel depth)

/-- Reads the value behind its mark; without a mark it has no text. -/
def valueAfter (fuel depth : Nat) (context : Context) (tokens : List Token) : Reader Draft :=
  match fuel with
  | 0 => refuse
  | fuel + 1 => do
    if (← sees .value) then
      skip
      partUnless fuel depth context tokens
    else return Draft.blank

/-- Reads the items of a flow sequence; `first` says whether no comma is needed yet. -/
def flowItems (fuel depth : Nat) (first : Bool) : Reader (List Draft) :=
  match fuel with
  | 0 => refuse
  | fuel + 1 => do
    if (← sees .closeSequence) then
      skip
      return []
    if !first then expect .comma
    if (← sees .closeSequence) then
      skip
      return []
    let item ← if (← sees .key) then pairItem fuel depth else part fuel depth .flow
    return item :: (← flowItems fuel depth false)

/-- Reads an item of a flow sequence that is a single pair.  Where the key is left out, the mark
behind it is passed over with it. -/
def pairItem (fuel depth : Nat) : Reader Draft :=
  match fuel, depth with
  | 0, _ => refuse
  | _, 0 => refuse
  | fuel + 1, depth + 1 => do
    skip
    let key ←
      if (← seesOneOf [.value, .comma, .closeSequence]) then
        skip
        pure Draft.blank
      else part fuel depth .flow
    let value ← valueAfter fuel depth .flow [.comma, .closeSequence]
    return .mapping ⟨none, none⟩ [(key, value)]

/-- Reads the entries of a flow mapping; `first` says whether no comma is needed yet. -/
def flowEntries (fuel depth : Nat) (first : Bool) : Reader (List (Draft × Draft)) :=
  match fuel with
  | 0 => refuse
  | fuel + 1 => do
    if (← sees .closeMapping) then
      skip
      return []
    if !first then expect .comma
    if (← sees .closeMapping) then
      skip
      return []
    let entry ← flowEntry fuel depth
    return entry :: (← flowEntries fuel depth false)

/-- Reads one entry of a flow mapping; a value that no mark announces is a key without a value. -/
def flowEntry (fuel depth : Nat) : Reader (Draft × Draft) :=
  match fuel with
  | 0 => refuse
  | fuel + 1 => do
    if (← sees .key) then
      skip
      let key ← partUnless fuel depth .flow [.value, .comma, .closeMapping]
      let value ← valueAfter fuel depth .flow [.comma, .closeMapping]
      return (key, value)
    else
      let key ← part fuel depth .flow
      return (key, Draft.blank)

end

/-- Reads the directives in front of a document; each may be given once. -/
def directives (fuel : Nat) (versionSeen : Bool) (given : List (String × List UInt8)) :
    Reader (List (String × List UInt8)) :=
  match fuel with
  | 0 => refuse
  | fuel + 1 => do
    match ← peek with
    | some (.version major minor) =>
      skip
      if versionSeen || major ≠ 1 || (minor ≠ 1 && minor ≠ 2) then refuse
      else directives fuel true given
    | some (.handle handle expansion) =>
      skip
      if given.any fun entry => entry.1 == handle then refuse
      else directives fuel versionSeen ((handle, expansion) :: given)
    | _ => return given

/-- Reads the content of a document behind its marker. -/
def content (fuel : Nat) : Reader Draft := do
  match ← peek with
  | none | some .documentStart | some .documentEnd | some (.version _ _)
  | some (.handle _ _) => return Draft.blank
  | some _ => part fuel Draft.maxDepth .block

/-- Whether a token belongs to the lines before a document. -/
def isPreamble : Token → Bool
  | .version _ _ | .handle _ _ | .documentStart => true
  | _ => false

/-- Reads the only document of a text; a text without tokens is an empty one. -/
def document (fuel : Nat) : Reader Draft := do
  match ← peek with
  | none => return Draft.blank
  | some token =>
    let draft ←
      if isPreamble token then do
        let given ← directives fuel false []
        modify fun reading => { reading with handles := given ++ standardHandles }
        expect .documentStart
        content fuel
      else part fuel Draft.maxDepth .block
    if (← get).tokens.all (· = .documentEnd) then return draft else refuse

/-- The node of a YAML text. -/
def read (text : String) : Option Node := do
  let tokens ← tokens? text.toList
  let (draft, _) ← document (4 * tokens.length + 8) ⟨tokens, [], standardHandles⟩
  draft.settle?

end DiskLayout.Yaml
