import DiskLayout.Document.Yaml.Text

/-!
# Writing YAML

Mappings and sequences are written as blocks.  An entry stands on a line of its own, its value
behind it or below it; a sequence below a key is not indented any further.

## Main definitions

* `Yaml.render` — the written form of a value
-/

namespace DiskLayout.Yaml

/-- The greatest number of bytes of a key that is written in front of its colon. -/
def maxKeySize : Nat := 128

/-- Whether a key is written in front of its colon. -/
def isShortKey (key : String) : Bool :=
  key.utf8ByteSize ≤ maxKeySize && !key.toList.any isBreak

/-- The end of a line and the indentation of the next; a text whose lines are all ended needs no
further line end. -/
def lineEnd (indent : Nat) (text : List Char) : List Char :=
  if text.getLast?.any isBreak then spaces indent else '\n' :: spaces indent

/-- Parts one below the other. -/
def stack (indent : Nat) : List (List Char) → List Char
  | [] => []
  | [part] => part
  | part :: next :: others => part ++ lineEnd indent part ++ stack indent (next :: others)

/-- The written form of a value without parts. -/
def writeScalar (indent : Nat) : Value → List Char
  | .null => "null".toList
  | .bool true => "true".toList
  | .bool false => "false".toList
  | .integer value => (toString value).toList
  | .decimal written => written.toList
  | .text text => writeText indent text
  | .sequence _ => "[]".toList
  | .mapping _ => "\x7b\x7d".toList

mutual

/-- A value behind a mark that is indented by `indent`. -/
def behind (indent : Nat) : Value → List Char
  | .sequence (item :: others) =>
    ' ' :: stack (indent + 2) (writeItems (indent + 2) (item :: others))
  | .mapping (entry :: others) =>
    ' ' :: stack (indent + 2) (writeEntries (indent + 2) (entry :: others))
  | value => ' ' :: writeScalar (indent + 2) value

/-- A value behind a key that is indented by `indent`, or below it. -/
def below (indent : Nat) : Value → List Char
  | .sequence (item :: others) =>
    '\n' :: spaces indent ++ stack indent (writeItems indent (item :: others))
  | .mapping (entry :: others) =>
    '\n' :: spaces (indent + 2) ++ stack (indent + 2) (writeEntries (indent + 2) (entry :: others))
  | value => ' ' :: writeScalar (indent + 2) value

/-- The items of a sequence. -/
def writeItems (indent : Nat) : List Value → List (List Char)
  | [] => []
  | item :: others => ('-' :: behind indent item) :: writeItems indent others

/-- The entries of a mapping. -/
def writeEntries (indent : Nat) : List (String × Value) → List (List Char)
  | [] => []
  | (key, value) :: others =>
    let written := writeText (indent + 2) key
    let entry :=
      if isShortKey key then written ++ [':'] ++ below indent value
      else ['?', ' '] ++ written ++ lineEnd indent written ++ [':'] ++ behind indent value
    entry :: writeEntries indent others

end

/-- The characters of a value that stands on its own. -/
def writeRoot : Value → List Char
  | .sequence (item :: others) => stack 0 (writeItems 0 (item :: others))
  | .mapping (entry :: others) => stack 0 (writeEntries 0 (entry :: others))
  | value => writeScalar 2 value

/-- The written form of a value. -/
def render (value : Value) : String :=
  let written := writeRoot value
  String.ofList (written ++ lineEnd 0 written)

end DiskLayout.Yaml
