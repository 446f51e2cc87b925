/-!
# Characters of YAML

The classes of characters that the format tells apart, and a place in a text: what is still to be
read, and where that stands.

## Main definitions

* `Yaml.isBreak`, `Yaml.isBlank`, `Yaml.isSeparator`, `Yaml.isPrintable`, `Yaml.isAllowed` —
  classes of characters
* `Yaml.Cursor` — a place in a text
* `Yaml.Gap` — the blanks and line ends between two words, and what they fold to
-/

namespace DiskLayout.Yaml

/-- Whether a character ends a line. -/
def isBreak (c : Char) : Bool :=
  c == '\n' || c == '\r' || c.toNat == 0x85 || c.toNat == 0x2028 || c.toNat == 0x2029

/-- Whether a character is a space or a tab. -/
def isBlank (c : Char) : Bool := c == ' ' || c == '\t'

/-- Whether a character separates words: a blank or the end of a line. -/
def isSeparator (c : Char) : Bool := isBlank c || isBreak c

/-- Whether what follows a character separates words; the end of the text does. -/
def separates : List Char → Bool
  | [] => true
  | c :: _ => isSeparator c

/-- Whether a character may be written as it is. -/
def isPrintable (c : Char) : Bool :=
  let code := c.toNat
  code == 0x0A || (0x20 ≤ code && code ≤ 0x7E) || (0xA0 ≤ code && code ≤ 0xD7FF) ||
    (0xE000 ≤ code && code ≤ 0xFFFD && code != 0xFEFF) || 0x10000 ≤ code

/-- The mark that may stand at the start of a line. -/
def byteOrderMark : Char := Char.ofNat 0xFEFF

/-- Whether a character may stand in a text. -/
def isAllowed (c : Char) : Bool :=
  isPrintable c || c == '\t' || c == '\r' || c.toNat == 0x85 || c == byteOrderMark

/-- What a line end counts as: the two separators of the last kind are kept, the others are one. -/
def lineEndOf (c : Char) : Char := if c.toNat == 0x2028 || c.toNat == 0x2029 then c else '\n'

/-- Whether a text starts with a marker between documents. -/
def startsMarker (text : List Char) : Bool :=
  match text with
  | '-' :: '-' :: '-' :: rest => separates rest
  | '.' :: '.' :: '.' :: rest => separates rest
  | _ => false

/-- A place in a text: what is still to be read, and where that stands. -/
structure Cursor where
  rest : List Char
  line : Nat
  /-- The number of characters in front of the place on its line. -/
  column : Nat
  /-- The number of bytes in front of the place. -/
  index : Nat

/-- The number of bytes of some characters. -/
def byteCount (text : List Char) : Nat := text.foldl (fun count c => count + c.utf8Size) 0

namespace Cursor

/-- The start of a text. -/
def start (text : List Char) : Cursor := ⟨text, 0, 0, 0⟩

/-- The place behind some characters of a line, given what follows them. -/
def passMany (cursor : Cursor) (count : Nat) (rest : List Char) : Cursor :=
  ⟨rest, cursor.line, cursor.column + count, cursor.index + byteCount (cursor.rest.take count)⟩

/-- The place behind one character of a line, given what follows it. -/
def pass (cursor : Cursor) (rest : List Char) : Cursor := cursor.passMany 1 rest

/-- The place behind a line end of some characters, given what follows it. -/
def passLine (cursor : Cursor) (count : Nat) (rest : List Char) : Cursor :=
  ⟨rest, cursor.line + 1, 0, cursor.index + byteCount (cursor.rest.take count)⟩

/-- The characters with a property that stand next, and the place behind them. -/
def takeWhile (cursor : Cursor) (property : Char → Bool) : List Char × Cursor :=
  let taken := cursor.rest.takeWhile property
  (taken, cursor.passMany taken.length (cursor.rest.dropWhile property))

/-- The place behind the blanks that stand next. -/
def skipBlanks (cursor : Cursor) : Cursor := (cursor.takeWhile isBlank).2

/-- Whether the character that stands next has a property. -/
def sees (cursor : Cursor) (property : Char → Bool) : Bool := cursor.rest.head?.any property

/-- Whether a separator or the end of the text stands next. -/
def seesSeparator (cursor : Cursor) : Bool := separates cursor.rest

/-- The place behind the line end that stands next, if one does. -/
def skipLineEnd (cursor : Cursor) : Cursor :=
  match cursor.rest with
  | '\r' :: '\n' :: rest => cursor.passLine 2 rest
  | c :: rest => if isBreak c then cursor.passLine 1 rest else cursor
  | [] => cursor

/-- The place behind blanks, a comment and a line end; nothing where something else stands on the
line. -/
def finishLine? (cursor : Cursor) : Option Cursor :=
  let cursor := cursor.skipBlanks
  let cursor :=
    if cursor.sees (· == '#') then (cursor.takeWhile fun c => !isBreak c).2 else cursor
  if cursor.rest.isEmpty || cursor.sees isBreak then some cursor.skipLineEnd else none

end Cursor

/-- The blanks and line ends between two words. -/
inductive Gap where
  /-- Blanks on one line, the latest first. -/
  | blanks (seen : List Char)
  /-- Line ends, the first apart from the others, the latest of these first; the first may be
  escaped, so that it does not count. -/
  | lines (first : Option Char) (others : List Char)

namespace Gap

/-- No gap. -/
def empty : Gap := blanks []

/-- Whether a gap spans lines. -/
def hasLines : Gap → Bool
  | blanks _ => false
  | lines _ _ => true

/-- Whether there is a gap. -/
def isEmpty : Gap → Bool
  | blanks seen => seen.isEmpty
  | lines _ _ => false

/-- A gap with one more blank; blanks at the start of a line vanish. -/
def addBlank (c : Char) : Gap → Gap
  | blanks seen => blanks (c :: seen)
  | lines first others => lines first others

/-- A gap with one more line end; blanks at the end of a line vanish. -/
def addBreak (c : Char) : Gap → Gap
  | blanks _ => lines (some (lineEndOf c)) []
  | lines first others => lines first (lineEndOf c :: others)

/-- What a gap folds to, the latest character first: a single line end becomes a space, of several
the first vanishes. -/
def folded : Gap → List Char
  | blanks seen => seen
  | lines (some '\n') [] => [' ']
  | lines (some '\n') others => others
  | lines (some first) others => others ++ [first]
  | lines none others => others

end Gap

end DiskLayout.Yaml
