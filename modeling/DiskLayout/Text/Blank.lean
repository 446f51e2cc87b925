/-!
# Blank characters

The characters with the Unicode property `White_Space`, and the removal of blanks from both ends
of a text.

## Main definitions

* `Blank.isBlank` — whether a character has the property
* `Blank.trim` — a text without the blanks at its two ends
-/

namespace DiskLayout.Blank

/-- Whether a character has the Unicode property `White_Space`. -/
def isBlank (c : Char) : Bool :=
  let code := c.toNat
  (9 ≤ code && code ≤ 13) || code == 0x20 || code == 0x85 || code == 0xA0 || code == 0x1680 ||
    (0x2000 ≤ code && code ≤ 0x200A) || code == 0x2028 || code == 0x2029 || code == 0x202F ||
    code == 0x205F || code == 0x3000

/-- A list of characters without the blanks at its start. -/
def trimLeft (text : List Char) : List Char := text.dropWhile isBlank

/-- A list of characters without the blanks at its end. -/
def trimRight (text : List Char) : List Char := (trimLeft text.reverse).reverse

/-- A list of characters without the blanks at its two ends. -/
def trim (text : List Char) : List Char := trimRight (trimLeft text)

end DiskLayout.Blank
