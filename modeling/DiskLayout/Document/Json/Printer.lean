import DiskLayout.Document.Value
import DiskLayout.Identifier.Uuid

/-!
# Writing JSON

A value is written on one line without blanks, or on many lines with each item and each entry on a
line of its own, indented by two more than what holds it.

## Main definitions

* `Json.quote` — a text between quotes
* `Json.compact` — a value on one line
* `Json.render` — a value on many lines, with a line end after the last
-/

namespace DiskLayout.Json

/-- The written form of a character between quotes. -/
def escape (c : Char) : List Char :=
  match c.toNat with
  | 0x22 => ['\x5c', '\x22']
  | 0x5C => ['\x5c', '\x5c']
  | 0x08 => ['\x5c', 'b']
  | 0x0C => ['\x5c', 'f']
  | 0x0A => ['\x5c', 'n']
  | 0x0D => ['\x5c', 'r']
  | 0x09 => ['\x5c', 't']
  | code => if code < 0x20 then ['\x5c', 'u'] ++ hexDigits 4 code else [c]

/-- A text between quotes. -/
def quote (text : String) : String :=
  String.ofList ('\x22' :: text.toList.flatMap escape ++ ['\x22'])

/-- The written form of a value that is no container. -/
def scalar : Value → String
  | .null => "null"
  | .bool true => "true"
  | .bool false => "false"
  | .integer value => toString value
  | .decimal written => written
  | .text text => quote text
  | .sequence _ | .mapping _ => ""

mutual

/-- A value on one line. -/
def compact : Value → String
  | .sequence items => "[" ++ ",".intercalate (compactItems items) ++ "]"
  | .mapping entries => "\x7b" ++ ",".intercalate (compactEntries entries) ++ "\x7d"
  | value => scalar value

/-- Items on one line each. -/
def compactItems : List Value → List String
  | [] => []
  | item :: others => compact item :: compactItems others

/-- Entries on one line each. -/
def compactEntries : List (String × Value) → List String
  | [] => []
  | (key, value) :: others => (quote key ++ ":" ++ compact value) :: compactEntries others

end

/-- A line end followed by blanks. -/
def newline (indent : Nat) : String := String.ofList ('\n' :: List.replicate indent ' ')

/-- Parts between two marks, each part on a line of its own; the marks alone where there are no
parts. -/
def block (first last : String) (indent : Nat) (parts : List String) : String :=
  if parts = [] then first ++ last
  else
    first ++ newline (indent + 2) ++ ("," ++ newline (indent + 2)).intercalate parts ++
      newline indent ++ last

mutual

/-- A value on many lines, those after the first indented. -/
def spread (indent : Nat) : Value → String
  | .sequence items => block "[" "]" indent (spreadItems (indent + 2) items)
  | .mapping entries => block "\x7b" "\x7d" indent (spreadEntries (indent + 2) entries)
  | value => scalar value

/-- Items on many lines. -/
def spreadItems (indent : Nat) : List Value → List String
  | [] => []
  | item :: others => spread indent item :: spreadItems indent others

/-- Entries on many lines. -/
def spreadEntries (indent : Nat) : List (String × Value) → List String
  | [] => []
  | (key, value) :: others =>
    (quote key ++ ": " ++ spread indent value) :: spreadEntries indent others

end

/-- A value on many lines, with a line end after the last. -/
def render (value : Value) : String := spread 0 value ++ "\n"

end DiskLayout.Json
