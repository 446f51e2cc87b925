import DiskLayout.Document.Yaml.Node
import DiskLayout.Document.Yaml.Scalar

/-!
# Tokens of YAML

A YAML text is a row of tokens: marks, scalars and the names of anchors and tags.  Block
collections have no brackets; where their indentation starts and ends, tokens say so.  Whether
something is a key shows only at the colon behind it, so a place where a key may start is kept
until then, and the tokens that announce the key are inserted there.

## Main definitions

* `Yaml.Token` — a token
* `Yaml.PossibleKey` — a place where a key may start
* `Yaml.Lexer`, `Yaml.Lexer.step` — a text read in part, and the effect of reading on
* `Yaml.tokens?` — the tokens of a text
-/

namespace DiskLayout.Yaml

/-- A token of a YAML text. -/
inductive Token where
  | version (major minor : Nat)
  /-- What the handle of a tag stands for. -/
  | handle (handle : String) (expansion : List UInt8)
  | documentStart
  | documentEnd
  | sequenceStart
  | mappingStart
  | blockEnd
  | openSequence
  | closeSequence
  | openMapping
  | closeMapping
  | item
  | comma
  | key
  | value
  | alias (name : String)
  | anchor (name : String)
  | tag (handle : String) (suffix : List UInt8)
  | scalar (style : ScalarStyle) (text : String)
deriving DecidableEq, Repr

/-- A place where a key may start. -/
structure PossibleKey where
  /-- Whether only a key may start there. -/
  required : Bool
  /-- The number of tokens before it. -/
  position : Nat
  line : Nat
  column : Nat
  index : Nat

/-- A text read in part. -/
structure Lexer where
  cursor : Cursor
  /-- The tokens so far, the latest first. -/
  tokens : List Token
  /-- The columns of the open block collections, the innermost first. -/
  indents : List Nat
  /-- The place where a key may have started. -/
  key? : Option PossibleKey
  /-- The same for the surroundings of the open flow collections, the innermost first. -/
  outerKeys : List (Option PossibleKey)
  /-- Whether a key may start next. -/
  keyAllowed : Bool

namespace Lexer

/-- Nothing read so far. -/
def start (text : List Char) : Lexer := ⟨Cursor.start text, [], [], none, [], true⟩

/-- Whether a flow collection is open. -/
def inFlow (lexer : Lexer) : Bool := !lexer.outerKeys.isEmpty

/-- Adds a token. -/
def emit (token : Token) (lexer : Lexer) : Lexer := { lexer with tokens := token :: lexer.tokens }

/-- Adds a token behind the first tokens of a number. -/
def emitAt (position : Nat) (token : Token) (lexer : Lexer) : Lexer :=
  let later := lexer.tokens.length - position
  { lexer with tokens := lexer.tokens.take later ++ token :: lexer.tokens.drop later }

/-- Says whether a key may start next. -/
def allowKey (allowed : Bool) (lexer : Lexer) : Lexer := { lexer with keyAllowed := allowed }

/-- Moves to another place. -/
def moveTo (cursor : Cursor) (lexer : Lexer) : Lexer := { lexer with cursor := cursor }

/-- Passes some characters. -/
def pass (count : Nat) (lexer : Lexer) : Lexer :=
  lexer.moveTo (lexer.cursor.passMany count (lexer.cursor.rest.drop count))

/-! ### Keys and indentation -/

/-- Gives up the place where a key may have started; it is an error where a key is required. -/
def dropKey (lexer : Lexer) : Option Lexer :=
  if lexer.key?.any PossibleKey.required then none else some { lexer with key? := none }

/-- Notes that a key may start here. -/
def noteKey (lexer : Lexer) : Option Lexer :=
  if lexer.keyAllowed then do
    let required := !lexer.inFlow && lexer.indents.head? == some lexer.cursor.column
    let cleared ← lexer.dropKey
    return { cleared with
      key? := some ⟨required, lexer.tokens.length, lexer.cursor.line, lexer.cursor.column,
        lexer.cursor.index⟩ }
  else some lexer

/-- The greatest number of characters between the start of a key and its colon. -/
def maxKeyLength : Nat := 1024

/-- Whether a key that started at a place would have to be over. -/
def isStale (lexer : Lexer) (key : PossibleKey) : Bool :=
  key.line < lexer.cursor.line || key.index + maxKeyLength < lexer.cursor.index

/-- A possible key, unless it is stale; it is an error where a key is required. -/
def refreshKey (lexer : Lexer) (key? : Option PossibleKey) : Option (Option PossibleKey) :=
  match key? with
  | none => some none
  | some key =>
    if lexer.isStale key then (if key.required then none else some none) else some (some key)

/-- Gives up all keys that are stale. -/
def refreshKeys (lexer : Lexer) : Option Lexer := do
  let current ← lexer.refreshKey lexer.key?
  let outer ← lexer.outerKeys.mapM lexer.refreshKey
  return { lexer with key? := current, outerKeys := outer }

/-- Ends the block collections that are indented by more than a column; all of them where there
is no column. -/
def unindent (column? : Option Nat) (lexer : Lexer) : Lexer :=
  if lexer.inFlow then lexer
  else
    let isDeeper (indent : Nat) : Bool :=
      (column?.map fun column => decide (column < indent)).getD true
    let ended := lexer.indents.takeWhile isDeeper
    { lexer with
      tokens := List.replicate ended.length Token.blockEnd ++ lexer.tokens
      indents := lexer.indents.dropWhile isDeeper }

/-- Starts a block collection at a column that is indented further than the open ones; its token
is put behind the first tokens of a number. -/
def indent (column position : Nat) (token : Token) (lexer : Lexer) : Lexer :=
  if lexer.inFlow || lexer.indents.head?.any (fun indent => column ≤ indent) then lexer
  else { lexer.emitAt position token with indents := column :: lexer.indents }

/-- Starts a block collection here. -/
def indentHere (token : Token) (lexer : Lexer) : Lexer :=
  lexer.indent lexer.cursor.column lexer.tokens.length token

/-! ### Blanks between tokens -/

/-- The place behind blanks, comments and line ends, and whether a key may start there.  At the
start of a line a byte order mark counts as a blank. -/
def skipGap (inFlow keyAllowed inComment : Bool) (cursor : Cursor) : List Char → Bool × Cursor
  | [] => (keyAllowed, { cursor with rest := [] })
  | '\r' :: '\n' :: rest =>
    skipGap inFlow (keyAllowed || !inFlow) false (cursor.passLine 2 rest) rest
  | c :: rest =>
    if isBreak c then skipGap inFlow (keyAllowed || !inFlow) false (cursor.passLine 1 rest) rest
    else if inComment || c == ' ' || (c == '\t' && (inFlow || !keyAllowed)) ||
        (c == byteOrderMark && cursor.column == 0) then
      skipGap inFlow keyAllowed inComment (cursor.pass rest) rest
    else if c == '#' then skipGap inFlow keyAllowed true (cursor.pass rest) rest
    else (keyAllowed, { cursor with rest := c :: rest })

/-- Passes blanks, comments and line ends. -/
def passGap (lexer : Lexer) : Lexer :=
  let (allowed, cursor) :=
    skipGap lexer.inFlow lexer.keyAllowed false lexer.cursor lexer.cursor.rest
  { lexer with cursor := cursor, keyAllowed := allowed }

/-! ### Names -/

/-- Whether a character may stand in the name of an anchor. -/
def isNameChar (c : Char) : Bool := c.isAlphanum || c == '_' || c == '-'

/-- Whether a character may stand in the suffix of a tag. -/
def isTagChar (verbatim : Bool) (c : Char) : Bool :=
  isNameChar c || ";/?:@&=+$.!~*\x27()%".toList.contains c ||
    (verbatim && ",[]".toList.contains c)

/-- The byte that two hexadecimal digits behind a percent sign spell. -/
def escapedByte? : List Char → Option (Nat × List Char)
  | '%' :: a :: b :: rest => (hexValue? 0 [a, b]).map fun byte => (byte, rest)
  | _ => none

/-- The number of bytes that follow a first byte of a character. -/
def bytesBehind? (first : Nat) : Option Nat :=
  if first < 0x80 then some 0
  else if first / 0x20 = 6 then some 1
  else if first / 0x10 = 14 then some 2
  else if first / 8 = 30 then some 3
  else none

/-- Some more bytes of a character. -/
def followingBytes? : (count : Nat) → List Char → Option (List UInt8 × List Char)
  | 0, text => some ([], text)
  | count + 1, text => do
    let (byte, rest) ← escapedByte? text
    if byte / 0x40 ≠ 2 then none
    let (others, rest) ← followingBytes? count rest
    return (byte.toUInt8 :: others, rest)

/-- The bytes of the character that percent signs and digits spell. -/
def escapedChar? (text : List Char) : Option (List UInt8 × List Char) := do
  let (first, rest) ← escapedByte? text
  let (others, rest) ← followingBytes? (← bytesBehind? first) rest
  return (first.toUInt8 :: others, rest)

/-- The bytes of a text of tag characters, each of which is a single byte, with its percent signs
resolved; `fuel` bounds its length. -/
def unescapeTag : (fuel : Nat) → List Char → Option (List UInt8)
  | _, [] => some []
  | 0, _ => none
  | fuel + 1, c :: rest =>
    if c = '%' then do
      let (resolved, others) ← escapedChar? (c :: rest)
      return resolved ++ (← unescapeTag fuel others)
    else (unescapeTag fuel rest).map (c.toNat.toUInt8 :: ·)

/-- The tag characters that stand next, and the place behind them. -/
def scanTagText (verbatim : Bool) (cursor : Cursor) : List Char × Cursor :=
  cursor.takeWhile (isTagChar verbatim)

/-- The part of a tag that a text spells.  It ends in front of a NUL. -/
def tagPart? (text : List Char) : Option (List UInt8) :=
  (unescapeTag text.length text).map fun bytes => bytes.takeWhile (· ≠ 0)

/-- The handle that stands next: an exclamation mark, a name, and a second exclamation mark if one
follows. -/
def scanHandle (cursor : Cursor) : Option (List Char × Cursor) :=
  match cursor.rest with
  | '!' :: rest =>
    let (name, cursor) := (cursor.pass rest).takeWhile isNameChar
    match cursor.rest with
    | '!' :: rest => some ('!' :: name ++ ['!'], cursor.pass rest)
    | _ => some ('!' :: name, cursor)
  | _ => none

/-- Whether a handle ends with a second exclamation mark. -/
def isNamedHandle (handle : List Char) : Bool := 2 ≤ handle.length && handle.getLast? == some '!'

/-- Reads a tag. -/
def scanTag (inFlow : Bool) (cursor : Cursor) : Option (Token × Cursor) := do
  let (token, cursor) ← match cursor.rest with
    | '!' :: '<' :: rest => do
      let (text, cursor) := scanTagText true (cursor.passMany 2 rest)
      match text, cursor.rest with
      | _ :: _, '>' :: rest => some (Token.tag "" (← tagPart? text), cursor.pass rest)
      | _, _ => none
    | _ => do
      let (handle, cursor) ← scanHandle cursor
      let (text, cursor) := scanTagText false cursor
      if isNamedHandle handle then
        if text.isEmpty then none
        else some (Token.tag (String.ofList handle) (← tagPart? text), cursor)
      else
        let suffix ← tagPart? (handle.drop 1 ++ text)
        some (if suffix.isEmpty then Token.tag "" "!".toUTF8.toList else Token.tag "!" suffix,
          cursor)
  if cursor.seesSeparator || (inFlow && cursor.sees (· == ',')) then some (token, cursor) else none

/-- Reads the name of an anchor or an alias behind its mark. -/
def scanName (cursor : Cursor) : Option (String × Cursor) :=
  let (name, cursor) := cursor.takeWhile isNameChar
  if !name.isEmpty &&
      (cursor.seesSeparator || cursor.sees ("?:,]\x7d%@\x60".toList.contains ·)) then
    some (String.ofList name, cursor)
  else none

/-- The number that one to nine digits spell. -/
def scanNumber (cursor : Cursor) : Option (Nat × Cursor) :=
  let (digits, cursor) := cursor.takeWhile Char.isDigit
  if digits.isEmpty || 9 < digits.length then none
  else (Scalar.digitsValue? 10 digits).map fun value => (value, cursor)

/-- Reads a version behind its name. -/
def scanVersion (cursor : Cursor) : Option (Token × Cursor) := do
  let (major, cursor) ← scanNumber cursor.skipBlanks
  match cursor.rest with
  | '.' :: rest =>
    let (minor, cursor) ← scanNumber (cursor.pass rest)
    return (.version major minor, cursor)
  | _ => none

/-- Reads the meaning of a handle behind its name. -/
def scanHandleMeaning (cursor : Cursor) : Option (Token × Cursor) := do
  let (handle, cursor) ← scanHandle cursor.skipBlanks
  if (isNamedHandle handle || handle = ['!']) && cursor.sees isBlank then
    let (text, cursor) := scanTagText true cursor.skipBlanks
    if !text.isEmpty && cursor.seesSeparator then
      return (.handle (String.ofList handle) (← tagPart? text), cursor)
    else none
  else none

/-- Reads a directive behind its mark. -/
def scanDirective (cursor : Cursor) : Option (Token × Cursor) := do
  let (name, cursor) := cursor.takeWhile isNameChar
  if !cursor.seesSeparator then none
  else
    let (token, cursor) ←
      if name = "YAML".toList then scanVersion cursor
      else if name = "TAG".toList then scanHandleMeaning cursor
      else none
    return (token, ← cursor.finishLine?)

/-! ### Tokens -/

/-- Ends everything that a document has open. -/
def endDocument (lexer : Lexer) : Option Lexer := do
  let lexer ← (lexer.unindent none).dropKey
  return lexer.allowKey false

/-- Takes in the start of a flow collection. -/
def openFlow (token : Token) (lexer : Lexer) : Option Lexer := do
  let lexer ← lexer.noteKey
  let inner := { lexer with key? := none, outerKeys := lexer.key? :: lexer.outerKeys }
  return ((inner.allowKey true).emit token).pass 1

/-- Takes in the end of a flow collection. -/
def closeFlow (token : Token) (lexer : Lexer) : Option Lexer := do
  let lexer ← lexer.dropKey
  let outer :=
    match lexer.outerKeys with
    | key? :: others => { lexer with key? := key?, outerKeys := others }
    | [] => lexer
  return ((outer.allowKey false).emit token).pass 1

/-- Takes in the mark of an item. -/
def takeItem (lexer : Lexer) : Option Lexer := do
  if !lexer.inFlow && !lexer.keyAllowed then none
  else
    let lexer ← (lexer.indentHere .sequenceStart).dropKey
    return ((lexer.allowKey true).emit .item).pass 1

/-- Takes in the mark of a key. -/
def takeKey (lexer : Lexer) : Option Lexer := do
  if !lexer.inFlow && !lexer.keyAllowed then none
  else
    let lexer ← (lexer.indentHere .mappingStart).dropKey
    return ((lexer.allowKey !lexer.inFlow).emit .key).pass 1

/-- Takes in the mark of a value: the key before it is announced where it started, if it has not
been. -/
def takeValue (lexer : Lexer) : Option Lexer :=
  match lexer.key? with
  | some key =>
    let lexer :=
      ((lexer.emitAt key.position .key).indent key.column key.position .mappingStart).allowKey false
    some (({ lexer with key? := none }.emit .value).pass 1)
  | none =>
    if !lexer.inFlow && !lexer.keyAllowed then none
    else
      let lexer := (lexer.indentHere .mappingStart).allowKey !lexer.inFlow
      some ((lexer.emit .value).pass 1)

/-- Takes in a comma. -/
def takeComma (lexer : Lexer) : Option Lexer := do
  let lexer ← lexer.dropKey
  return ((lexer.allowKey true).emit .comma).pass 1

/-- Takes in something with a name behind its mark. -/
def takeNamed (token : String → Token) (lexer : Lexer) : Option Lexer := do
  let lexer ← lexer.noteKey
  let (name, cursor) ← scanName (lexer.pass 1).cursor
  return ((lexer.allowKey false).emit (token name)).moveTo cursor

/-- Takes in a tag. -/
def takeTag (lexer : Lexer) : Option Lexer := do
  let lexer ← lexer.noteKey
  let (token, cursor) ← scanTag lexer.inFlow lexer.cursor
  return ((lexer.allowKey false).emit token).moveTo cursor

/-- Takes in a block. -/
def takeBlock (literal : Bool) (lexer : Lexer) : Option Lexer := do
  let lexer ← lexer.dropKey
  let scanned ← scanBlock literal lexer.indents.head? (lexer.pass 1).cursor
  let style : ScalarStyle := if literal then .literal else .quoted
  return ((lexer.allowKey true).emit (.scalar style (String.ofList scanned.text))).moveTo
    scanned.cursor

/-- Takes in a quoted scalar. -/
def takeQuoted (scan : Partial → Cursor → List Char → Option Scanned) (lexer : Lexer) :
    Option Lexer := do
  let lexer ← lexer.noteKey
  let inside := (lexer.pass 1).cursor
  let scanned ← scan Partial.empty inside inside.rest
  return ((lexer.allowKey false).emit (.scalar .quoted (String.ofList scanned.text))).moveTo
    scanned.cursor

/-- Takes in an unquoted scalar. -/
def takePlain (lexer : Lexer) : Option Lexer := do
  let lexer ← lexer.noteKey
  let least := (lexer.indents.head?.map (· + 1)).getD 0
  let scanned ← scanPlain lexer.inFlow least Partial.empty lexer.cursor lexer.cursor.rest
  return ((lexer.allowKey scanned.passedLines).emit
    (.scalar .plain (String.ofList scanned.text))).moveTo scanned.cursor

/-- Whether an unquoted scalar may start with a character. -/
def startsPlain (inFlow : Bool) (c : Char) (rest : List Char) : Bool :=
  (!isSeparator c && !"-?:,[]\x7b\x7d#&*!|>\x27\x22%@\x60".toList.contains c) ||
    (c == '-' && !rest.head?.any isBlank) ||
    (!inFlow && (c == '?' || c == ':') && !separates rest)

/-- Takes in the token that starts with a character. -/
def takeToken (lexer : Lexer) (c : Char) (rest : List Char) : Option Lexer :=
  let atMark := lexer.inFlow || separates rest
  match c with
  | '[' => lexer.openFlow .openSequence
  | '\x7b' => lexer.openFlow .openMapping
  | ']' => lexer.closeFlow .closeSequence
  | '\x7d' => lexer.closeFlow .closeMapping
  | ',' => lexer.takeComma
  | '*' => lexer.takeNamed .alias
  | '&' => lexer.takeNamed .anchor
  | '!' => lexer.takeTag
  | '\x27' => lexer.takeQuoted scanSingle
  | '\x22' => lexer.takeQuoted scanDouble
  | _ =>
    if c == '-' && separates rest then lexer.takeItem
    else if c == '?' && atMark then lexer.takeKey
    else if c == ':' && atMark then lexer.takeValue
    else if c == '|' && !lexer.inFlow then lexer.takeBlock true
    else if c == '>' && !lexer.inFlow then lexer.takeBlock false
    else if startsPlain lexer.inFlow c rest then lexer.takePlain
    else none

/-- Takes in the next token.  At the start of a line it may be a directive or a marker between
documents. -/
def step (lexer : Lexer) : Option Lexer := do
  let lexer ← lexer.passGap.refreshKeys
  let lexer := lexer.unindent (some lexer.cursor.column)
  match lexer.cursor.rest with
  | [] => lexer.endDocument
  | c :: rest =>
    if lexer.cursor.column = 0 ∧ c = '%' then do
      let lexer ← lexer.endDocument
      let (token, cursor) ← scanDirective (lexer.pass 1).cursor
      return (lexer.emit token).moveTo cursor
    else if lexer.cursor.column = 0 ∧ startsMarker (c :: rest) then do
      let lexer ← lexer.endDocument
      return (lexer.emit (if c = '-' then .documentStart else .documentEnd)).pass 3
    else lexer.takeToken c rest

/-- Reads on to the end of the text; every step but the last passes a character. -/
def run (lexer : Lexer) : Option Lexer :=
  match lexer.step with
  | none => none
  | some next =>
    if next.cursor.rest.length < lexer.cursor.rest.length then run next
    else if next.cursor.rest.isEmpty then some next
    else none
termination_by lexer.cursor.rest.length

end Lexer

/-- The tokens of a text. -/
def tokens? (text : List Char) : Option (List Token) :=
  if text.all isAllowed then (Lexer.start text).run.map fun lexer => lexer.tokens.reverse else none

end DiskLayout.Yaml
