import DiskLayout.Document.Json.Floating
import DiskLayout.Document.Scalar

/-!
# Numbers of JSON

A number without fraction and exponent that fits 64 bits is an integer, every other number a
decimal.  The digits of a decimal are taken into a significand of 64 bits for as long as it can
hold them; the decimal is the floating-point number for that significand and the power of ten
behind it, and is refused where that is not finite.

## Main definitions

* `Json.Significand` — a significand with a power of ten
* `Json.number?` — the number that a word spells
-/

namespace DiskLayout.Json

/-- Whether a list of digits may be the whole part of a number: it has no needless zero. -/
def isWhole (digits : List Char) : Bool :=
  match digits with
  | [] => false
  | '0' :: rest => rest.isEmpty
  | _ => true

/-- Whether a text is one or more digits. -/
def isDigits (text : List Char) : Bool := !text.isEmpty && text.all Char.isDigit

/-- Whether a text is an exponent part, or empty. -/
def isExponent (text : List Char) : Bool :=
  match text with
  | [] => true
  | mark :: rest =>
    (mark == 'e' || mark == 'E') &&
      match rest with
      | '+' :: digits => isDigits digits
      | '-' :: digits => isDigits digits
      | digits => isDigits digits

/-- Whether a text is what may follow the whole part of a number. -/
def isFraction (text : List Char) : Bool :=
  match text with
  | '.' :: rest =>
    isDigits (rest.takeWhile Char.isDigit) && isExponent (rest.dropWhile Char.isDigit)
  | _ => isExponent text

/-- The first integer that is too large for the numbers of a document. -/
def integerLimit : Nat := Nat.pow 2 64

/-- The least integer of a document. -/
def leastInteger : Int := -9223372036854775808

/-- A decimal as it is taken in: a value of 64 bits, times ten to the exponent. -/
structure Significand where
  value : Nat
  exponent : Int

namespace Significand

/-- The value with one more digit, if it can hold it. -/
def extend? (significand : Significand) (digit : Char) : Option Nat :=
  let value := 10 * significand.value + (digit.toNat - 48)
  if value < integerLimit then some value else none

/-- Takes in the digits of the whole part; from the first that does not fit, each counts as a
zero. -/
def takeWhole (significand : Significand) : List Char → Significand
  | [] => significand
  | digit :: others =>
    match significand.extend? digit with
    | some value => takeWhole ⟨value, significand.exponent⟩ others
    | none => ⟨significand.value, significand.exponent + (others.length + 1 : Nat)⟩

/-- Takes in the digits of the fraction up to the first that does not fit. -/
def takeFraction (significand : Significand) : List Char → Significand
  | [] => significand
  | digit :: others =>
    match significand.extend? digit with
    | some value => takeFraction ⟨value, significand.exponent - 1⟩ others
    | none => significand

end Significand

/-- The significand and the power of ten that a whole part and what follows it spell. -/
def significand? (whole rest : List Char) : Option Significand :=
  let taken := Significand.takeWhole ⟨0, 0⟩ whole
  let (taken, rest) :=
    match rest with
    | '.' :: behind =>
      (taken.takeFraction (behind.takeWhile Char.isDigit), behind.dropWhile Char.isDigit)
    | _ => (taken, rest)
  (Scalar.exponent? rest).map fun exponent => ⟨taken.value, taken.exponent + exponent⟩

/-- The decimal that a sign, a whole part and the rest spell, unless it is not finite. -/
def decimal? (negative : Bool) (whole rest : List Char) : Option Value := do
  let significand ← significand? whole rest
  let number ← Floating.ofDecimal significand.value significand.exponent
  let written := number.render
  return .decimal (String.ofList (if negative then '-' :: written else written))

/-- The integer that a sign and a magnitude spell.  Zero with a sign is none. -/
def integer? (negative : Bool) (magnitude : Nat) : Option Int :=
  if negative then
    (if magnitude ≠ 0 ∧ leastInteger ≤ -(magnitude : Int) then some (-(magnitude : Int)) else none)
  else if magnitude < integerLimit then some magnitude
  else none

/-- The number that a sign and a word behind it spell. -/
def numberOf? (negative : Bool) (word : List Char) : Option Value :=
  let whole := word.takeWhile Char.isDigit
  let rest := word.dropWhile Char.isDigit
  if !(isWhole whole && isFraction rest) then none
  else
    let integer? :=
      if rest = [] then (Scalar.digitsValue? 10 whole).bind (integer? negative) else none
    match integer? with
    | some value => some (.integer value)
    | none => decimal? negative whole rest

/-- The number that a word spells. -/
def number? (word : List Char) : Option Value :=
  match word with
  | '-' :: rest => numberOf? true rest
  | _ => numberOf? false word

end DiskLayout.Json
