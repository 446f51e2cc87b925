import DiskLayout.Document.Source

/-!
# Decoding

A decoder turns what is read from a document into a value of the domain or refuses it.  Records
are decoded field by field.  A refusal keeps the place of the entry that caused it, so that of
several refusals the one met first counts.

## Main definitions

* `Refusal`, `Decoder` — why something is refused, what may refuse it
* `Decoder.text`, `Decoder.bool`, `Decoder.natural`, `Decoder.optional`, `Decoder.sequence`,
  `Decoder.entries`, `Decoder.named`, `Decoder.variant` — decoders for the common shapes
* `Fields` — a decoder for the fields of a record, built as an applicative functor
* `Fields.closed`, `Fields.lenient` — the decoders for a record
-/

namespace DiskLayout

/-- Why something is refused; most refusals have no wording of their own. -/
structure Refusal where
  reason? : Option String
deriving DecidableEq, Repr

namespace Refusal

/-- A refusal without wording. -/
def silent : Refusal := ⟨none⟩

/-- A refusal with a wording. -/
def because (reason : String) : Refusal := ⟨some reason⟩

end Refusal

/-- What turns something read into a value of the domain or refuses it. -/
abbrev Decoder (α : Type) := Source → Except Refusal α

namespace Decoder

variable {α : Type}

/-- Refuses without wording. -/
def refuse : Except Refusal α := .error Refusal.silent

/-- What there is, or a refusal. -/
def require : Option α → Except Refusal α
  | some value => .ok value
  | none => refuse

/-- A text. -/
def text : Decoder String := fun source => require source.text?

/-- A truth value. -/
def bool : Decoder Bool := fun source => require source.bool?

/-- A natural number below a limit. -/
def natural (limit : Nat) : Decoder Nat := fun source =>
  require (source.natural?.filter fun number => number < limit)

/-- A value that may be absent. -/
def optional (decode : Decoder α) : Decoder (Option α) := fun source =>
  match source.isPresent? with
  | some true => (decode source).map some
  | some false => .ok none
  | none => refuse

/-- Decodes items in order, up to the first refusal. -/
def all (decode : Decoder α) : List Source → Except Refusal (List α)
  | [] => .ok []
  | item :: others => do
    let first ← decode item
    let others ← all decode others
    return first :: others

/-- A list of values. -/
def sequence (decode : Decoder α) : Decoder (List α) := fun source => do
  all decode (← require source.items?)

/-- Decodes the values of entries in order, up to the first refusal. -/
def allEntries (decode : Decoder α) : List (String × Source) → Except Refusal (List (String × α))
  | [] => .ok []
  | (key, value) :: others => do
    let first ← decode value
    let others ← allEntries decode others
    return (key, first) :: others

/-- The entries of a mapping in order. -/
def entries (decode : Decoder α) : Decoder (List (String × α)) := fun source => do
  allEntries decode (← require source.entries?)

/-- One of several cases that carry nothing, by its label. -/
def labelled (ofLabel? : CaseLabel → Option α) : Decoder α := fun source =>
  match source.case? with
  | some (label, content?) =>
    if content?.all Source.isNothing then require (ofLabel? label) else refuse
  | none => refuse

/-- One of several cases that carry nothing, by its name. -/
def named (ofName? : String → Option α) : Decoder α :=
  labelled fun label =>
    match label with
    | .name name => ofName? name
    | .number _ => none

/-- A mapping with a single key that names the kind of what it holds.  The first key decides. -/
def variant (decode : String → Option (Decoder α)) : Decoder α := fun source =>
  if source.isTaggedCase then refuse
  else
    match source.entries? with
    | some ((key, content) :: others) =>
      match decode key with
      | none => refuse
      | some decode => do
        let value ← decode content
        if others.isEmpty then return value else refuse
    | _ => refuse

end Decoder

/-- A refusal with the place of the entry that caused it. -/
structure PlacedRefusal where
  place : Nat
  refusal : Refusal
deriving DecidableEq, Repr

/-- How a record is written: as named entries, or as its fields in the order of declaration. -/
inductive Written where
  | named (entries : List (String × Source))
  | listed (items : List Source)

namespace Written

/-- The form in which a source writes a record. -/
def ofSource? (source : Source) : Option Written :=
  match source.entries? with
  | some entries => some (named entries)
  | none => source.listed?.map listed

/-- The number of entries. -/
def size : Written → Nat
  | named entries => entries.length
  | listed items => items.length

/-- The entry of a field, with its place: by name, or by the field's number. -/
def find? (name : String) (number : Nat) : Written → Option (Nat × Source)
  | named entries =>
    (entries.zipIdx.find? fun entry => entry.1.1 == name).map fun entry => (entry.2, entry.1.2)
  | listed items => items[number]?.map fun item => (number, item)

/-- The place of the first entry that repeats an earlier name, or that no field has where
`closed` says that there may be no others. -/
def strayPlace? (closed : Bool) (names : List String) : Written → Option Nat
  | named entries =>
    let keys := entries.map Prod.fst
    (keys.zipIdx.find? fun key =>
      if names.contains key.1 then (keys.take key.2).contains key.1 else closed).map Prod.snd
  | listed items => if names.length < items.length then some names.length else none

end Written

/-- A decoder for some fields of a record.  It knows the names of the fields in the order of
declaration, and is told the number of its first field. -/
structure Fields (α : Type) where
  names : List String
  decode : (number : Nat) → Written → Except PlacedRefusal α

namespace Fields

variable {α β : Type}

/-- A single field; `absent` stands for it where it is not written. -/
def field (name : String) (absent : Option α) (decode : Decoder α) : Fields α where
  names := [name]
  decode number written :=
    match written.find? name number with
    | some (place, source) => (decode source).mapError fun refusal => ⟨place, refusal⟩
    | none =>
      match absent with
      | some value => .ok value
      | none => .error ⟨written.size, Refusal.silent⟩

/-- A field that must be written. -/
def required (name : String) (decode : Decoder α) : Fields α := field name none decode

/-- A field with a default. -/
def withDefault (name : String) (value : α) (decode : Decoder α) : Fields α :=
  field name (some value) decode

/-- A field whose value may be absent. -/
def optional (name : String) (decode : Decoder α) : Fields (Option α) :=
  field name (some none) (Decoder.optional decode)

/-- Of two refusals, the one met first. -/
def earlier (first second : PlacedRefusal) : PlacedRefusal :=
  if second.place < first.place then second else first

/-- Puts two outcomes together; of two refusals the one met first counts. -/
def combine : Except PlacedRefusal (α → β) → Except PlacedRefusal α → Except PlacedRefusal β
  | .ok function, .ok value => .ok (function value)
  | .error refusal, .ok _ => .error refusal
  | .ok _, .error refusal => .error refusal
  | .error first, .error second => .error (earlier first second)

instance : Functor Fields where
  map function fields := ⟨fields.names, fun number written =>
    (fields.decode number written).map function⟩

instance : Seq Fields where
  seq functions fields := ⟨functions.names ++ (fields ()).names, fun number written =>
    combine (functions.decode number written)
      ((fields ()).decode (number + functions.names.length) written)⟩

/-- The outcome for a written record, where `stray` is the place of an entry that may not be. -/
def conclude (stray : Option Nat) (outcome : Except PlacedRefusal α) : Except Refusal α :=
  match stray, outcome with
  | none, .ok value => .ok value
  | none, .error placed => .error placed.refusal
  | some _, .ok _ => Decoder.refuse
  | some place, .error placed =>
    if placed.place < place then .error placed.refusal else Decoder.refuse

/-- Decodes a written record; `closed` says whether entries that no field has are refused. -/
def decodeWritten (closed : Bool) (fields : Fields α) (written : Written) : Except Refusal α :=
  conclude (written.strayPlace? closed fields.names) (fields.decode 0 written)

/-- The decoder for a record that has no entries but its fields. -/
def closed (fields : Fields α) : Decoder α := fun source => do
  fields.decodeWritten true (← Decoder.require (Written.ofSource? source))

/-- The decoder for a record that may have entries besides its fields. -/
def lenient (fields : Fields α) : Decoder α := fun source => do
  fields.decodeWritten false (← Decoder.require (Written.ofSource? source))

end Fields

end DiskLayout
