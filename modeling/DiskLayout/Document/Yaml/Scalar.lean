import DiskLayout.Document.Yaml.Cursor
import DiskLayout.Identifier.Uuid

/-!
# Scalars in YAML texts

The three families of written scalars: unquoted ones, which end where a mark or a line of less
indentation comes; quoted ones, which end with their quote; and blocks, whose lines are told by
their indentation.  Line ends inside the first two are folded.

## Main definitions

* `Yaml.scanPlain` — an unquoted scalar
* `Yaml.scanSingle`, `Yaml.scanDouble` — quoted scalars
* `Yaml.scanBlock` — a block
-/

namespace DiskLayout.Yaml

/-- A scalar that has been read, with the place behind it. -/
structure Scanned where
  text : List Char
  cursor : Cursor
  /-- Whether line ends were passed behind the last word. -/
  passedLines : Bool

/-! ### Unquoted scalars -/

/-- What has been read of an unquoted or quoted scalar, the latest character first, and the gap
behind it. -/
structure Partial where
  text : List Char
  gap : Gap

namespace Partial

/-- Nothing read so far. -/
def empty : Partial := ⟨[], Gap.empty⟩

/-- Adds a character of a word. -/
def add (c : Char) (read : Partial) : Partial := ⟨c :: (read.gap.folded ++ read.text), Gap.empty⟩

/-- Settles the gap. -/
def settle (read : Partial) : Partial := ⟨read.gap.folded ++ read.text, Gap.empty⟩

/-- Adds a blank. -/
def addBlank (c : Char) (read : Partial) : Partial := { read with gap := read.gap.addBlank c }

/-- Adds a line end. -/
def addBreak (c : Char) (read : Partial) : Partial := { read with gap := read.gap.addBreak c }

end Partial

/-- Whether a character is a mark of flow collections. -/
def isFlowMark (c : Char) : Bool := ",[]\x7b\x7d".toList.contains c

/-- Whether a colon in a flow collection is followed by what makes it an error. -/
def isStrayColon (c : Char) (rest : List Char) : Bool :=
  c == ':' && rest.head?.any fun next => isFlowMark next || next == '?'

/-- Whether an unquoted scalar ends in front of a character. -/
def endsPlain (inFlow : Bool) (c : Char) (rest : List Char) : Bool :=
  (c == ':' && separates rest) || (inFlow && isFlowMark c)

/-- Whether an unquoted scalar ends behind a gap, in front of the next word. -/
def endsBehindGap (inFlow : Bool) (indent column : Nat) (word : List Char) : Bool :=
  (!inFlow && column < indent) || (column == 0 && startsMarker word) ||
    word.head?.any (· == '#')

/-- Reads an unquoted scalar; in block context its lines are indented by at least `indent`. -/
def scanPlain (inFlow : Bool) (indent : Nat) (read : Partial) (cursor : Cursor) :
    List Char → Option Scanned
  | [] => some ⟨read.text.reverse, { cursor with rest := [] }, read.gap.hasLines⟩
  | '\r' :: '\n' :: rest =>
    scanPlain inFlow indent (read.addBreak '\n') (cursor.passLine 2 rest) rest
  | c :: rest =>
    if isBlank c then
      if read.gap.hasLines && cursor.column < indent && c == '\t' then none
      else scanPlain inFlow indent (read.addBlank c) (cursor.pass rest) rest
    else if isBreak c then
      scanPlain inFlow indent (read.addBreak c) (cursor.passLine 1 rest) rest
    else if !read.gap.isEmpty && endsBehindGap inFlow indent cursor.column (c :: rest) then
      some ⟨read.text.reverse, { cursor with rest := c :: rest }, read.gap.hasLines⟩
    else if inFlow && isStrayColon c rest then none
    else if endsPlain inFlow c rest then
      some ⟨read.text.reverse, { cursor with rest := c :: rest }, read.gap.hasLines⟩
    else scanPlain inFlow indent (read.add c) (cursor.pass rest) rest

/-! ### Quoted scalars -/

/-- Reads a scalar between single quotes, the first of which has been passed. -/
def scanSingle (read : Partial) (cursor : Cursor) : List Char → Option Scanned
  | [] => none
  | '\r' :: '\n' :: rest => scanSingle (read.addBreak '\n') (cursor.passLine 2 rest) rest
  | '\x27' :: '\x27' :: rest => scanSingle (read.add '\x27') (cursor.passMany 2 rest) rest
  | '\x27' :: rest => some ⟨read.settle.text.reverse, cursor.pass rest, false⟩
  | c :: rest =>
    if isBlank c then scanSingle (read.addBlank c) (cursor.pass rest) rest
    else if isBreak c then scanSingle (read.addBreak c) (cursor.passLine 1 rest) rest
    else if cursor.column == 0 && startsMarker (c :: rest) then none
    else scanSingle (read.add c) (cursor.pass rest) rest

/-- The character that a single letter behind a backslash stands for. -/
def unescape? : Char → Option Char
  | '0' => some '\x00'
  | 'a' => some '\x07'
  | 'b' => some '\x08'
  | 't' => some '\t'
  | '\t' => some '\t'
  | 'n' => some '\n'
  | 'v' => some '\x0b'
  | 'f' => some '\x0c'
  | 'r' => some '\r'
  | 'e' => some '\x1b'
  | ' ' => some ' '
  | '\x22' => some '\x22'
  | '/' => some '/'
  | '\x5c' => some '\x5c'
  | 'N' => some (Char.ofNat 0x85)
  | '_' => some (Char.ofNat 0xA0)
  | 'L' => some (Char.ofNat 0x2028)
  | 'P' => some (Char.ofNat 0x2029)
  | _ => none

/-- The character whose code hexadecimal digits spell. -/
def charOfDigits? (digits : List Char) : Option Char :=
  match hexValue? 0 digits with
  | some code =>
    if (0xD800 ≤ code ∧ code ≤ 0xDFFF) ∨ 0x10FFFF < code then none else some (Char.ofNat code)
  | none => none

/-- What has been read after an escaped line end. -/
def Partial.continueLine (read : Partial) : Partial := { read.settle with gap := .lines none [] }

/-- Reads a scalar between double quotes, the first of which has been passed. -/
def scanDouble (read : Partial) (cursor : Cursor) : List Char → Option Scanned
  | [] => none
  | '\r' :: '\n' :: rest => scanDouble (read.addBreak '\n') (cursor.passLine 2 rest) rest
  | '\x22' :: rest => some ⟨read.settle.text.reverse, cursor.pass rest, false⟩
  | '\x5c' :: '\r' :: '\n' :: rest => scanDouble read.continueLine (cursor.passLine 3 rest) rest
  | '\x5c' :: 'x' :: a :: b :: rest =>
    match charOfDigits? [a, b] with
    | some c => scanDouble (read.add c) (cursor.passMany 4 rest) rest
    | none => none
  | '\x5c' :: 'u' :: a :: b :: c :: d :: rest =>
    match charOfDigits? [a, b, c, d] with
    | some c => scanDouble (read.add c) (cursor.passMany 6 rest) rest
    | none => none
  | '\x5c' :: 'U' :: a :: b :: c :: d :: e :: f :: g :: h :: rest =>
    match charOfDigits? [a, b, c, d, e, f, g, h] with
    | some c => scanDouble (read.add c) (cursor.passMany 10 rest) rest
    | none => none
  | '\x5c' :: c :: rest =>
    if isBreak c then scanDouble read.continueLine (cursor.passLine 2 rest) rest
    else
      match unescape? c with
      | some c => scanDouble (read.add c) (cursor.passMany 2 rest) rest
      | none => none
  | c :: rest =>
    if isBlank c then scanDouble (read.addBlank c) (cursor.pass rest) rest
    else if isBreak c then scanDouble (read.addBreak c) (cursor.passLine 1 rest) rest
    else if cursor.column == 0 && startsMarker (c :: rest) then none
    else if c == '\x5c' then none
    else scanDouble (read.add c) (cursor.pass rest) rest

/-! ### Blocks -/

/-- What happens to the line ends at the end of a block. -/
inductive Chomping where
  | strip
  | clip
  | keep
deriving DecidableEq, Repr

/-- What the first line of a block says. -/
structure BlockHeader where
  chomping : Chomping
  /-- The indentation in addition to that of the surroundings. -/
  increment? : Option Nat

/-- The chomping that a sign stands for. -/
def chompingOfSign? : Char → Option Chomping
  | '+' => some .keep
  | '-' => some .strip
  | _ => none

/-- The indentation that a digit stands for; zero is none. -/
def indentOfDigit? (c : Char) : Option Nat :=
  if '1' ≤ c ∧ c ≤ '9' then some (c.toNat - 48) else none

/-- Reads the first line of a block, behind its mark. -/
def BlockHeader.scan (cursor : Cursor) : Option (BlockHeader × Cursor) :=
  let found : BlockHeader × Cursor :=
    match cursor.rest with
    | first :: second :: rest =>
      match chompingOfSign? first, indentOfDigit? first, chompingOfSign? second,
        indentOfDigit? second with
      | some chomping, _, _, some increment =>
        (⟨chomping, some increment⟩, cursor.passMany 2 rest)
      | some chomping, _, _, none => (⟨chomping, none⟩, cursor.pass (second :: rest))
      | none, some increment, some chomping, _ =>
        (⟨chomping, some increment⟩, cursor.passMany 2 rest)
      | none, some increment, none, _ => (⟨.clip, some increment⟩, cursor.pass (second :: rest))
      | none, none, _, _ => (⟨.clip, none⟩, cursor)
    | [only] =>
      match chompingOfSign? only, indentOfDigit? only with
      | some chomping, _ => (⟨chomping, none⟩, cursor.pass [])
      | none, some increment => (⟨.clip, some increment⟩, cursor.pass [])
      | none, none => (⟨.clip, none⟩, cursor)
    | [] => (⟨.clip, none⟩, cursor)
  found.2.finishLine?.map fun cursor => (found.1, cursor)

/-- What has been read of a block. -/
structure BlockText where
  /-- The text so far, the latest character first. -/
  text : List Char
  /-- The line end behind the last line. -/
  lineEnd : Option Char
  /-- The line ends of the empty lines behind it, the latest first. -/
  emptyLines : List Char
  /-- Whether the last line started with a blank. -/
  startedBlank : Bool
  /-- The indentation of the lines, once it is known. -/
  indent? : Option Nat
  /-- The greatest indentation of the empty lines at the start. -/
  greatest : Nat
  /-- Whether the text of a line is being read, and not what is in front of it. -/
  inLine : Bool

namespace BlockText

/-- Nothing read so far. -/
def start (indent? : Option Nat) : BlockText := ⟨[], none, [], false, indent?, 0, false⟩

/-- Whether a column belongs to the indentation. -/
def isIndented (block : BlockText) (column : Nat) : Bool :=
  match block.indent? with
  | some indent => column < indent
  | none => true

/-- The indentation of the lines, where the first line with text starts at a column; `least` is
the least indentation that they may have. -/
def settleIndent (block : BlockText) (least column : Nat) : BlockText :=
  match block.indent? with
  | some _ => block
  | none => { block with indent? := some (max (max block.greatest column) least) }

/-- Adds the line ends behind the last line, in front of a line that starts with a character. -/
def startLine (block : BlockText) (literal : Bool) (c : Char) : BlockText :=
  let folds := !literal && block.lineEnd == some '\n' && !block.startedBlank && !isBlank c
  let joint := if folds then (if block.emptyLines = [] then [' '] else []) else block.lineEnd.toList
  { block with
    text := block.emptyLines ++ joint ++ block.text
    lineEnd := none
    emptyLines := []
    startedBlank := isBlank c
    inLine := true }

/-- Ends a line. -/
def endLine (block : BlockText) (c : Char) : BlockText :=
  if block.inLine then { block with lineEnd := some (lineEndOf c), inLine := false }
  else { block with emptyLines := lineEndOf c :: block.emptyLines }

/-- The text of a block that is at its end. -/
def finish (block : BlockText) (chomping : Chomping) : List Char :=
  match chomping with
  | .strip => block.text.reverse
  | .clip => (block.lineEnd.toList ++ block.text).reverse
  | .keep => (block.emptyLines ++ block.lineEnd.toList ++ block.text).reverse

end BlockText

/-- Reads the lines of a block, whose indentation is at least `least`. -/
def scanBlockLines (literal : Bool) (least : Nat) (block : BlockText) (cursor : Cursor) :
    List Char → Option (BlockText × Cursor)
  | [] => some (block, { cursor with rest := [] })
  | '\r' :: '\n' :: rest =>
    let block := { block with greatest := max block.greatest cursor.column }
    scanBlockLines literal least (block.endLine '\n') (cursor.passLine 2 rest) rest
  | c :: rest =>
    if isBreak c then
      let block := { block with greatest := max block.greatest cursor.column }
      scanBlockLines literal least (block.endLine c) (cursor.passLine 1 rest) rest
    else if block.inLine then
      scanBlockLines literal least { block with text := c :: block.text } (cursor.pass rest) rest
    else if block.isIndented cursor.column && c == ' ' then
      scanBlockLines literal least block (cursor.pass rest) rest
    else if block.isIndented cursor.column && c == '\t' then none
    else
      let block := block.settleIndent least cursor.column
      if block.indent? = some cursor.column then
        let started := block.startLine literal c
        scanBlockLines literal least { started with text := c :: started.text } (cursor.pass rest)
          rest
      else some (block, { cursor with rest := c :: rest })

/-- Reads a block behind its mark, in surroundings whose lines are indented by `outer`, if by
anything. -/
def scanBlock (literal : Bool) (outer : Option Nat) (cursor : Cursor) : Option Scanned := do
  let (header, cursor) ← BlockHeader.scan cursor
  let indent? := header.increment?.map fun increment => outer.getD 0 + increment
  let least := max 1 ((outer.map (· + 1)).getD 0)
  let (block, cursor) ←
    scanBlockLines literal least (BlockText.start indent?) cursor cursor.rest
  return ⟨block.finish header.chomping, cursor, true⟩

end DiskLayout.Yaml
