import DiskLayout.Document.Decode
import DiskLayout.Error

/-!
# Errors in documents

An error is written as a mapping from its tag to its text or to its named parts; an error without
parts is written as its tag alone.

## Main definitions

* `LayoutError.encode`, `LayoutError.decode` — writing and reading a layout error
* `ConfigError.encode`, `ConfigError.decode` — writing and reading a configuration error
* `InternalError.encode`, `InternalError.decode` — writing and reading an internal error
* `ErrorKind.encode` — writing an error of any family
-/

namespace DiskLayout

/-- A case of a document type that may carry parts. -/
inductive CaseDecoder (α : Type) where
  | bare (value : α)
  | carrying (decode : Decoder α)

/-- Reads a value by the name of its case: alone, or as the only key of a mapping. -/
def Decoder.case {α : Type} (cases : String → Option (CaseDecoder α)) : Decoder α := fun source =>
  match source.case? with
  | some (.name name, content?) =>
    match cases name, content? with
    | some (.bare value), none => .ok value
    | some (.bare value), some content => if content.isNothing then .ok value else Decoder.refuse
    | some (.carrying decode), some content => decode content
    | _, _ => Decoder.refuse
  | _ => Decoder.refuse

namespace LayoutError

mutual

/-- Writes a layout error. -/
def encode : LayoutError → Value
  | invalidMountpoint text => .mapping [("invalid-mountpoint", .text text)]
  | duplicateName text => .mapping [("duplicate-name", .text text)]
  | unsupportedCombination text => .mapping [("unsupported-combination", .text text)]
  | policyViolation text => .mapping [("policy-violation", .text text)]
  | missingRequiredMount missing =>
    .mapping [("missing-required-mount",
      .mapping [("missing", .sequence (missing.map Value.text))])]
  | unsupportedPayload text => .mapping [("unsupported-payload", .text text)]
  | invalidTable text => .mapping [("invalid-table", .text text)]
  | multiple errors => .mapping [("multiple", .sequence (encodeAll errors))]

/-- Writes layout errors. -/
def encodeAll : List LayoutError → List Value
  | [] => []
  | error :: others => error.encode :: encodeAll others

end

/-- The parts of an error about absent mountpoints. -/
def missingFields : Fields LayoutError :=
  missingRequiredMount <$> .required "missing" (Decoder.sequence Decoder.text)

/-- A case that carries a text. -/
def textCase (error : String → LayoutError) : Option (CaseDecoder LayoutError) :=
  some (.carrying fun source => (Decoder.text source).map error)

/-- The cases of layout errors, given how errors inside a collection are read. -/
def cases (inner : Decoder LayoutError) : String → Option (CaseDecoder LayoutError)
  | "invalid-mountpoint" => textCase invalidMountpoint
  | "duplicate-name" => textCase duplicateName
  | "unsupported-combination" => textCase unsupportedCombination
  | "policy-violation" => textCase policyViolation
  | "missing-required-mount" => some (.carrying missingFields.lenient)
  | "unsupported-payload" => textCase unsupportedPayload
  | "invalid-table" => textCase invalidTable
  | "multiple" => some (.carrying fun source => (Decoder.sequence inner source).map multiple)
  | _ => none

/-- Reads a layout error in which errors are nested at most `depth` deep. -/
def decodeWithin : (depth : Nat) → Decoder LayoutError
  | 0 => fun _ => Decoder.refuse
  | depth + 1 => Decoder.case (cases (decodeWithin depth))

/-- Reads a layout error. -/
def decode : Decoder LayoutError := fun source => decodeWithin source.depth source

end LayoutError

/-- A mapping from a tag to one named text. -/
def encodeNamedText (tag name text : String) : Value :=
  .mapping [(tag, .mapping [(name, .text text)])]

/-- A case that carries one named text. -/
def namedTextCase {α : Type} (name : String) (make : String → α) : Option (CaseDecoder α) :=
  some (.carrying (make <$> Fields.required name Decoder.text).lenient)

namespace ConfigError

/-- Writes a configuration error. -/
def encode (error : ConfigError) : Value :=
  match error with
  | loadProfile path => encodeNamedText error.tag "path" path
  | loadCustomizations path => encodeNamedText error.tag "path" path
  | loadPartitionTable path => encodeNamedText error.tag "path" path
  | invalidSeed value => encodeNamedText error.tag "value" value
  | invalidProfile text => .mapping [(error.tag, .text text)]
  | parseProfile | parseCustomizations | missingPartitioning | parsePartitionTable =>
    .text error.tag

/-- The cases of configuration errors. -/
def cases : String → Option (CaseDecoder ConfigError)
  | "load-profile" => namedTextCase "path" loadProfile
  | "parse-profile" => some (.bare parseProfile)
  | "invalid-profile" => some (.carrying fun source => (Decoder.text source).map invalidProfile)
  | "load-customizations" => namedTextCase "path" loadCustomizations
  | "parse-customizations" => some (.bare parseCustomizations)
  | "missing-partitioning" => some (.bare missingPartitioning)
  | "load-partition-table" => namedTextCase "path" loadPartitionTable
  | "parse-partition-table" => some (.bare parsePartitionTable)
  | "invalid-seed" => namedTextCase "value" invalidSeed
  | _ => none

/-- Reads a configuration error. -/
def decode : Decoder ConfigError := Decoder.case cases

end ConfigError

namespace InternalError

/-- Writes an internal error. -/
def encode (error : InternalError) : Value :=
  match error with
  | internal text => .mapping [(error.tag, .text text)]
  | serializeOutput => .text error.tag
  | writeOutput path => encodeNamedText error.tag "path" path

/-- The cases of internal errors. -/
def cases : String → Option (CaseDecoder InternalError)
  | "internal" => some (.carrying fun source => (Decoder.text source).map internal)
  | "serialize-output" => some (.bare serializeOutput)
  | "write-output" => namedTextCase "path" writeOutput
  | _ => none

/-- Reads an internal error. -/
def decode : Decoder InternalError := Decoder.case cases

end InternalError

/-- Writes an error of any family. -/
def ErrorKind.encode : ErrorKind → Value
  | .layout error => error.encode
  | .config error => error.encode
  | .internal error => error.encode

end DiskLayout
