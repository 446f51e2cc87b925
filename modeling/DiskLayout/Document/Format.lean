import DiskLayout.Document.Decode
import DiskLayout.Document.Json.Printer
import DiskLayout.Document.Json.Reader
import DiskLayout.Document.Yaml.Printer
import DiskLayout.Document.Yaml.Reader

/-!
# Formats of documents

## Main definitions

* `DocumentFormat` — the two formats
* `DocumentFormat.read`, `DocumentFormat.render` — reading and writing in a format
* `DocumentFormat.ofPath` — the format that the name of a file tells
-/

namespace DiskLayout

/-- A format of documents. -/
inductive DocumentFormat where
  | yaml
  | json
deriving DecidableEq, Repr

namespace DocumentFormat

/-- The name of a format. -/
def name : DocumentFormat → String
  | yaml => "yaml"
  | json => "json"

/-- The format with a name. -/
def ofName? (text : String) : Option DocumentFormat :=
  [yaml, json].find? fun format => format.name == text

/-- What a text holds. -/
def read : DocumentFormat → String → Option Source
  | yaml, text => (Yaml.read text).map .node
  | json, text => (Json.read text).map .value

/-- The written form of a value. -/
def render : DocumentFormat → Value → String
  | yaml, value => Yaml.render value
  | json, value => Json.render value

/-- What a text holds, decoded; `none` where the text is malformed or what it holds is refused. -/
def decode? {α : Type} (format : DocumentFormat) (decode : Decoder α) (text : String) : Option α :=
  (format.read text).bind fun source => (decode source).toOption

end DocumentFormat

/-- The last element of a path; none where the path ends in `..` or is only the root. -/
def fileName? (path : String) : Option (List Char) :=
  let named := (path.splitOn "/").filter fun element => element ≠ "" ∧ element ≠ "."
  match named.getLast? with
  | some ".." => none
  | some element => some element.toList
  | none => none

/-- The part of a file name behind its last point; none where nothing stands before that point. -/
def extension? (name : List Char) : Option (List Char) :=
  if name.contains '.' then
    let behind := (name.reverse.takeWhile (· ≠ '.')).reverse
    if behind.length + 1 = name.length then none else some behind
  else none

/-- The format that the name of a file tells: JSON where the extension is `json` in any letter
case, else YAML. -/
def DocumentFormat.ofPath (path : String) : DocumentFormat :=
  match (fileName? path).bind extension? with
  | some extension => if extension.map Char.toLower = "json".toList then .json else .yaml
  | none => .yaml

end DiskLayout
