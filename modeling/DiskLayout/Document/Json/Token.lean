import DiskLayout.Document.Json.Number
import DiskLayout.Identifier.Uuid

/-!
# Tokens of JSON

A JSON text is a row of tokens with blanks between them: the six marks, and the texts, numbers and
words that are values on their own.

## Main definitions

* `Json.Token` — a token
* `Json.scanText` — the text inside quotes, and what follows it
* `Json.word?` — the value that a word is
* `Json.tokens?` — the tokens of a text

## Main results

* `Json.length_le_of_scanText` — scanning never lengthens what is left
-/

namespace DiskLayout.Json

/-- A token of a JSON text. -/
inductive Token where
  | openObject
  | closeObject
  | openArray
  | closeArray
  | colon
  | comma
  | scalar (value : Value)

/-- The blanks that may stand between tokens. -/
def isBlank (c : Char) : Bool := c == ' ' || c == '\n' || c == '\r' || c == '\t'

/-- The character that a single letter behind a backslash stands for. -/
def unescape? : Char → Option Char
  | 'b' => some '\x08'
  | 'f' => some '\x0c'
  | 'n' => some '\n'
  | 'r' => some '\r'
  | 't' => some '\t'
  | '/' => some '/'
  | '\x22' => some '\x22'
  | '\x5c' => some '\x5c'
  | _ => none

/-- The first code of the second halves of pairs. -/
def secondHalf : Nat := 0xDC00

/-- Whether a code is the first half of a pair. -/
def isFirstHalf (code : Nat) : Bool := 0xD800 ≤ code && code < secondHalf

/-- Whether a code is the second half of a pair. -/
def isSecondHalf (code : Nat) : Bool := secondHalf ≤ code && code < 0xE000

/-- The character of the two halves of a pair. -/
def joinHalves (first second : Nat) : Char :=
  Char.ofNat (0x10000 + 0x400 * (first - 0xD800) + (second - secondHalf))

/-- Puts a character in front of a scanned text. -/
def prepend (c : Char) (scanned : Option (List Char × List Char)) :
    Option (List Char × List Char) :=
  scanned.map fun found => (c :: found.1, found.2)

/-- The text up to the closing quote, and what follows that quote.  A backslash escapes one
character or gives its code in four digits; characters beyond 16 bits take two such codes. -/
def scanText : List Char → Option (List Char × List Char)
  | [] => none
  | '\x22' :: rest => some ([], rest)
  | '\x5c' :: 'u' :: a :: b :: c :: d :: rest =>
    match hexValue? 0 [a, b, c, d] with
    | none => none
    | some code =>
      if isSecondHalf code then none
      else if isFirstHalf code then
        match rest with
        | '\x5c' :: 'u' :: e :: f :: g :: h :: others =>
          match hexValue? 0 [e, f, g, h] with
          | none => none
          | some second =>
            if isSecondHalf second then prepend (joinHalves code second) (scanText others)
            else none
        | _ => none
      else prepend (Char.ofNat code) (scanText rest)
  | '\x5c' :: c :: rest =>
    match unescape? c with
    | some c => prepend c (scanText rest)
    | none => none
  | c :: rest => if c.toNat < 0x20 || c == '\x5c' then none else prepend c (scanText rest)

theorem length_le_of_scanText {input text rest : List Char}
    (h : scanText input = some (text, rest)) : rest.length ≤ input.length := by
  fun_induction scanText input generalizing text <;> simp_all [prepend] <;> grind

/-- Whether a character may stand in a number or a word. -/
def isWordChar (c : Char) : Bool := c.isAlphanum || c == '+' || c == '-' || c == '.'

/-- The value that a word is. -/
def word? (word : List Char) : Option Value :=
  if word = "null".toList then some .null
  else if word = "true".toList then some (.bool true)
  else if word = "false".toList then some (.bool false)
  else number? word

/-- The mark that a character is. -/
def mark? : Char → Option Token
  | '\x7b' => some .openObject
  | '\x7d' => some .closeObject
  | '[' => some .openArray
  | ']' => some .closeArray
  | ':' => some .colon
  | ',' => some .comma
  | _ => none

/-- The tokens of a text. -/
def tokens? (input : List Char) : Option (List Token) :=
  match input with
  | [] => some []
  | c :: rest =>
    if isBlank c then tokens? rest
    else if c = '\x22' then
      match h : scanText rest with
      | none => none
      | some (text, others) =>
        have := length_le_of_scanText h
        (tokens? others).map (Token.scalar (.text (String.ofList text)) :: ·)
    else
      match mark? c with
      | some mark => (tokens? rest).map (mark :: ·)
      | none =>
        match word? (c :: rest.takeWhile isWordChar) with
        | none => none
        | some value =>
          have := (List.dropWhile_sublist isWordChar (l := rest)).length_le
          (tokens? (rest.dropWhile isWordChar)).map (Token.scalar value :: ·)
termination_by input.length

end DiskLayout.Json
