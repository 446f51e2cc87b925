import DiskLayout.Text.Unprintable

/-!
# Quoted text

Texts inside messages stand between double quotes.  The quote, the backslash, the tab, the line
ends and the null character are written with a backslash, every other unprintable character by
its code point, and all else as it is.

## Main definitions

* `Quoted.escape` — the written form of one character
* `Quoted.quote` — the written form of a text
-/

namespace DiskLayout.Quoted

/-- A number in hexadecimal without leading zeros. -/
def hexadecimal (n : Nat) : List Char := Nat.toDigits 16 n

/-- The written form of a character inside quotes. -/
def escape (c : Char) : List Char :=
  match c.toNat with
  | 0x22 => ['\x5c', '\x22']
  | 0x5C => ['\x5c', '\x5c']
  | 0x09 => ['\x5c', 't']
  | 0x0A => ['\x5c', 'n']
  | 0x0D => ['\x5c', 'r']
  | 0x00 => ['\x5c', '0']
  | code =>
    if Unprintable.isUnprintable c then
      ['\x5c', 'u', '\x7b'] ++ hexadecimal code ++ ['\x7d']
    else [c]

/-- The written form of a text, quotes included. -/
def quote (text : String) : String :=
  String.ofList ('\x22' :: text.toList.flatMap escape ++ ['\x22'])

end DiskLayout.Quoted
