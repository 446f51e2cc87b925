import DiskLayout.Size.Basic
import DiskLayout.Text.Blank

/-!
# Written sizes

A size is written as a number with an optional unit: `1024`, `20K`, `500 MiB`, `1 GB`.  A single
letter and the `iB` spellings are powers of 1024, the other spellings with `B` powers of 1000.
Writing uses the largest of `K`, `M`, `G`, `T` that divides the size.

## Main definitions

* `Size.multiplier?` — what a unit stands for
* `Size.parse` — the size a text stands for
* `Size.render` — the shortest exact text of a size
* `SizeError` — why a text is no size
-/

namespace DiskLayout

/-- What is wrong with the number of a written size. -/
inductive NumberFault where
  | empty
  | tooLarge
deriving DecidableEq, Repr

/-- Why a text is not a size; each case carries the trimmed text. -/
inductive SizeError where
  | unknownUnits (text : String)
  | invalidNumber (text : String) (fault : NumberFault)
  | overflow (text : String)
deriving DecidableEq, Repr

namespace NumberFault

/-- The wording of a number fault. -/
def message : NumberFault → String
  | empty => "cannot parse integer from empty string"
  | tooLarge => "number too large to fit in target type"

end NumberFault

namespace SizeError

/-- The wording of a size error. -/
def message : SizeError → String
  | unknownUnits text => "unknown data size units in string: " ++ text
  | invalidNumber text fault => "invalid number in data size '" ++ text ++ "': " ++ fault.message
  | overflow text => "data size overflows 64 bits: " ++ text

end SizeError

namespace Size

/-- The value of a list of decimal digits, most significant first. -/
def decimalValue (digits : List Char) : Nat :=
  digits.foldl (fun value digit => 10 * value + (digit.toNat - 48)) 0

/-- The number of bytes that a unit stands for. -/
def multiplier? : String → Option Nat
  | "" | "B" => some 1
  | "K" | "KiB" => some kibibyte
  | "M" | "MiB" => some mebibyte
  | "G" | "GiB" => some gibibyte
  | "T" | "TiB" => some tebibyte
  | "kB" | "KB" => some kilobyte
  | "MB" => some megabyte
  | "GB" => some gigabyte
  | "TB" => some terabyte
  | _ => none

/-- Reads a size.  The unit is judged first, then the number, then the product. -/
def parse (text : String) : Except SizeError Nat :=
  let trimmed := Blank.trim text.toList
  let digits := trimmed.takeWhile Char.isDigit
  let unit := Blank.trim (trimmed.dropWhile Char.isDigit)
  let shown := String.ofList trimmed
  match multiplier? (String.ofList unit) with
  | none => .error (.unknownUnits shown)
  | some factor =>
    if digits = [] then .error (.invalidNumber shown .empty)
    else if limit ≤ decimalValue digits then .error (.invalidNumber shown .tooLarge)
    else if limit ≤ decimalValue digits * factor then .error (.overflow shown)
    else .ok (decimalValue digits * factor)

/-- Writes a size with the largest binary unit that divides it. -/
def render (size : Nat) : String :=
  if size = 0 then "0"
  else if size % tebibyte = 0 then toString (size / tebibyte) ++ "T"
  else if size % gibibyte = 0 then toString (size / gibibyte) ++ "G"
  else if size % mebibyte = 0 then toString (size / mebibyte) ++ "M"
  else if size % kibibyte = 0 then toString (size / kibibyte) ++ "K"
  else toString size

/-- Whether a document writes a size as a bare number rather than as a text with a unit. -/
def isBare (size : Nat) : Bool := size % kibibyte != 0 || size == 0

end Size

end DiskLayout
