/-!
# Universally unique identifiers

A UUID is a 128-bit number, written as thirty-two hexadecimal digits in five groups separated by
hyphens.  Reading accepts four spellings in any letter case: with hyphens, without them, with
hyphens between braces, and with hyphens behind `urn:uuid:`.  This is the standard format of
documents; what is relied on of a format is said in `UuidFormat.Documented`, which leaves the letter
case of `urn:uuid:` open.

## Main definitions

* `Uuid` — an identifier
* `Uuid.parse?` — the identifier that a text spells
* `Uuid.render` — the hyphenated lowercase spelling
* `Uuid.ofRandomBytes` — the random (version 4) identifier made from sixteen bytes
-/

namespace DiskLayout

/-- A 128-bit identifier. -/
structure Uuid where
  bits : BitVec 128
deriving DecidableEq, Repr

/-- The value of a hexadecimal digit in either letter case. -/
def hexDigitValue? (c : Char) : Option Nat :=
  if '0' ≤ c ∧ c ≤ '9' then some (c.toNat - 48)
  else if 'a' ≤ c ∧ c ≤ 'f' then some (c.toNat - 87)
  else if 'A' ≤ c ∧ c ≤ 'F' then some (c.toNat - 55)
  else none

/-- The lowercase hexadecimal digit of a value below sixteen. -/
def hexDigit (value : Nat) : Char := Nat.digitChar (value % 16)

/-- The last `count` hexadecimal digits of a number, most significant first. -/
def hexDigits : (count : Nat) → (value : Nat) → List Char
  | 0, _ => []
  | count + 1, value => hexDigits count (value / 16) ++ [hexDigit value]

/-- The number that hexadecimal digits spell, continuing from `value`. -/
def hexValue? (value : Nat) : List Char → Option Nat
  | [] => some value
  | c :: rest =>
    match hexDigitValue? c with
    | some digit => hexValue? (16 * value + digit) rest
    | none => none

namespace Uuid

/-- The identifier that exactly thirty-two hexadecimal digits spell. -/
def ofDigits? (digits : List Char) : Option Uuid :=
  if digits.length = 32 then (hexValue? 0 digits).map fun value => ⟨BitVec.ofNat 128 value⟩
  else none

/-- The digits of the hyphenated spelling: five groups separated by hyphens. -/
def ungroup? (text : List Char) : Option (List Char) :=
  if text.length = 36 ∧ text[8]? = some '-' ∧ text[13]? = some '-' ∧ text[18]? = some '-' ∧
      text[23]? = some '-' then
    some (text.take 8 ++ (text.drop 9).take 4 ++ (text.drop 14).take 4 ++ (text.drop 19).take 4 ++
      text.drop 24)
  else none

/-- The identifier that a text spells with hyphens. -/
def ofHyphenated? (text : List Char) : Option Uuid := (ungroup? text).bind ofDigits?

/-- The identifier that a text spells in any of the four spellings. -/
def ofChars? (text : List Char) : Option Uuid :=
  if text.length = 32 then ofDigits? text
  else if text.length = 36 then ofHyphenated? text
  else if text.length = 38 then
    if text.head? = some '\x7b' ∧ text.getLast? = some '\x7d' then
      ofHyphenated? (text.drop 1).dropLast
    else none
  else if text.length = 45 then
    if (text.take 9).map Char.toLower = "urn:uuid:".toList then ofHyphenated? (text.drop 9)
    else none
  else none

/-- The identifier that a text spells in any of the four spellings. -/
def parse? (text : String) : Option Uuid := ofChars? text.toList

/-- Puts thirty-two digits into five groups separated by hyphens. -/
def group (digits : List Char) : List Char :=
  digits.take 8 ++ ['-'] ++ (digits.drop 8).take 4 ++ ['-'] ++ (digits.drop 12).take 4 ++ ['-'] ++
    (digits.drop 16).take 4 ++ ['-'] ++ digits.drop 20

/-- The characters of the hyphenated lowercase spelling. -/
def toChars (uuid : Uuid) : List Char := group (hexDigits 32 uuid.bits.toNat)

/-- The hyphenated lowercase spelling. -/
def render (uuid : Uuid) : String := String.ofList uuid.toChars

/-- The identifier whose sixteen bytes are given, most significant first. -/
def ofBytes (bytes : Vector UInt8 16) : Uuid :=
  ⟨BitVec.ofNat 128 (bytes.toList.foldl (fun value byte => 256 * value + byte.toNat) 0)⟩

/-- The random identifier made from sixteen bytes: byte 6 is marked with version 4 and byte 8 with
the variant. -/
def ofRandomBytes (bytes : Vector UInt8 16) : Uuid :=
  let marked := bytes.set 6 (bytes[6] &&& 0x0F ||| 0x40)
  ofBytes (marked.set 8 (bytes[8] &&& 0x3F ||| 0x80))

end Uuid

end DiskLayout
