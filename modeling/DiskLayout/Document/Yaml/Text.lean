import DiskLayout.Document.Scalar
import DiskLayout.Document.Yaml.Cursor
import DiskLayout.Identifier.Uuid

/-!
# Texts in YAML

A text is written plain where nothing about it could be misread, else between single quotes, else
between double quotes; a text of several lines is written as a block below its key.

## Main definitions

* `Yaml.mayBePlain`, `Yaml.mayBeSingle`, `Yaml.mayBeBlock` — the forms that a text may take
* `Yaml.TextForm`, `Yaml.textForm` — the form that a text takes
* `Yaml.writeText` — the written form of a text
-/

namespace DiskLayout.Yaml

/-- Whether some character with one property stands right before one with another. -/
def hasPair (first second : Char → Bool) : List Char → Bool
  | a :: b :: rest => (first a && second b) || hasPair first second (b :: rest)
  | _ => false

/-- Whether the first character of a text has a meaning of its own. -/
def startsWithMark : List Char → Bool
  | [] => false
  | c :: rest =>
    "#,[]\x7b\x7d&*!|>'\x22%@\x60".toList.contains c ||
      ((c == '?' || c == ':' || c == '-') && separates rest)

/-- Whether a text has a colon before a separator or a hash behind one; `previous` is the
character before it. -/
def hasInnerMark (previous : Char) : List Char → Bool
  | [] => false
  | c :: rest =>
    (c == ':' && separates rest) || (c == '#' && isSeparator previous) || hasInnerMark c rest

/-- Whether a text starts like a line between documents. -/
def startsLikeMarker (text : List Char) : Bool :=
  "---".toList.isPrefixOf text || "...".toList.isPrefixOf text

/-- Whether something in a text would be read as a mark. -/
def hasMark (text : List Char) : Bool :=
  startsLikeMarker text || startsWithMark text ||
    match text with
    | [] => false
    | c :: rest => hasInnerMark c rest

/-- Whether a character is a space. -/
def isSpace (c : Char) : Bool := c == ' '

/-- Whether a text may not be written line by line: it has characters that must be escaped, or
spaces at the end of a line. -/
def needsEscapes (text : List Char) : Bool :=
  !text.all isPrintable || hasPair isSpace isBreak text

/-- Whether a property holds of the first or of the last character of a text. -/
def atEnd (property : Char → Bool) (text : List Char) : Bool :=
  text.head?.any property || text.getLast?.any property

/-- Whether a text may be written as it is. -/
def mayBePlain (text : List Char) : Bool :=
  !needsEscapes text && !text.any isBreak && !atEnd isSpace text && !hasMark text

/-- Whether a text may stand between single quotes. -/
def mayBeSingle (text : List Char) : Bool :=
  !needsEscapes text && !hasPair isBreak isSpace text

/-- Whether a text may be written as a block. -/
def mayBeBlock (text : List Char) : Bool :=
  !text.isEmpty && !needsEscapes text && !text.getLast?.any isSpace

/-- How a text is written. -/
inductive TextForm where
  | plain
  | single
  | double
  | block
deriving DecidableEq, Repr

/-- Whether an unquoted text would be taken for something else than a text. -/
def isAmbiguous (text : String) : Bool :=
  match Scalar.resolve text with
  | .text _ => Scalar.isPaddedRow text.toList
  | _ => true

/-- The form that a text takes. -/
def textForm (text : String) : TextForm :=
  let chars := text.toList
  if chars.contains '\n' then (if mayBeBlock chars then .block else .double)
  else if !isAmbiguous text && mayBePlain chars then .plain
  else if mayBeSingle chars then .single
  else .double

/-- Spaces in front of a line. -/
def spaces (count : Nat) : List Char := List.replicate count ' '

/-- A text with every line after a line end indented; `fresh` says whether a line has just
ended. -/
def indentLines (indent : Nat) (fresh : Bool) : List Char → List Char
  | [] => []
  | c :: rest =>
    if isBreak c then c :: indentLines indent true rest
    else (if fresh then spaces indent else []) ++ c :: indentLines indent false rest

/-- The letter that stands for a character behind a backslash. -/
def shortEscape? (c : Char) : Option Char :=
  match c.toNat with
  | 0x00 => some '0'
  | 0x07 => some 'a'
  | 0x08 => some 'b'
  | 0x09 => some 't'
  | 0x0A => some 'n'
  | 0x0B => some 'v'
  | 0x0C => some 'f'
  | 0x0D => some 'r'
  | 0x1B => some 'e'
  | 0x22 => some '\x22'
  | 0x5C => some '\x5c'
  | 0x85 => some 'N'
  | 0xA0 => some '_'
  | 0x2028 => some 'L'
  | 0x2029 => some 'P'
  | _ => none

/-- The code of a character in as few of two, four or eight capital digits as suffice. -/
def codeEscape (c : Char) : List Char :=
  let digits (count : Nat) := (hexDigits count c.toNat).map Char.toUpper
  if c.toNat ≤ 0xFF then 'x' :: digits 2
  else if c.toNat ≤ 0xFFFF then 'u' :: digits 4
  else 'U' :: digits 8

/-- The written form of a character between double quotes. -/
def escape (c : Char) : List Char :=
  if isPrintable c && !isBreak c && c != '\x22' && c != '\x5c' then [c]
  else
    match shortEscape? c with
    | some letter => ['\x5c', letter]
    | none => '\x5c' :: codeEscape c

/-- The hints behind the mark of a block: the indentation where the text starts with a blank, and
whether the text ends without a line end or with several. -/
def blockHints (text : List Char) : List Char :=
  let indentation := if text.head?.any fun c => isSpace c || isBreak c then ['2'] else []
  let ending :=
    match text.reverse with
    | [] => ['-']
    | [last] => if isBreak last then ['+'] else ['-']
    | last :: before :: _ =>
      if !isBreak last then ['-'] else if isBreak before then ['+'] else []
  indentation ++ ending

/-- The written form of a text, whose lines after the first are indented. -/
def writeText (indent : Nat) (text : String) : List Char :=
  let chars := text.toList
  match textForm text with
  | .plain => chars
  | .single =>
    let doubled := chars.flatMap fun c => if c = '\x27' then ['\x27', '\x27'] else [c]
    let ending := if chars.getLast?.any isBreak then spaces indent else []
    ['\x27'] ++ indentLines indent false doubled ++ ending ++ ['\x27']
  | .double => ['\x22'] ++ chars.flatMap escape ++ ['\x22']
  | .block => ['|'] ++ blockHints chars ++ ['\n'] ++ indentLines indent true chars

end DiskLayout.Yaml
