import DiskLayout.Document.Value

/-!
# Unquoted scalars

What an unquoted scalar of YAML is where any value may stand: nothing, a truth value, an integer
in one of four bases, a floating-point number, or a text.

## Main definitions

* `Scalar.isNull`, `Scalar.bool?`, `Scalar.natural?`, `Scalar.integer?`, `Scalar.isDecimal` — the
  forms of scalars
* `Scalar.resolve` — the value that an unquoted scalar is
-/

namespace DiskLayout.Scalar

/-- Whether a scalar spells nothing. -/
def isNull (scalar : String) : Bool := ["null", "Null", "NULL", "~"].contains scalar

/-- The truth value that a scalar spells. -/
def bool? (scalar : String) : Option Bool :=
  if ["true", "True", "TRUE"].contains scalar then some true
  else if ["false", "False", "FALSE"].contains scalar then some false
  else none

/-- The value of a digit in a base up to sixteen. -/
def digitValue? (base : Nat) (c : Char) : Option Nat :=
  let value? :=
    if '0' ≤ c ∧ c ≤ '9' then some (c.toNat - 48)
    else if 'a' ≤ c ∧ c ≤ 'f' then some (c.toNat - 87)
    else if 'A' ≤ c ∧ c ≤ 'F' then some (c.toNat - 55)
    else none
  value?.filter fun value => value < base

/-- The number that one or more digits in a base spell. -/
def digitsValue? (base : Nat) (digits : List Char) : Option Nat :=
  if digits = [] then none
  else digits.foldlM (fun value c => (digitValue? base c).map fun digit => base * value + digit) 0

/-- A scalar without one sign at its start. -/
def withoutSign : List Char → List Char
  | '+' :: rest => rest
  | '-' :: rest => rest
  | scalar => scalar

/-- Whether a scalar is a row of decimal digits with a needless zero in front; such a row is a
text. -/
def isPaddedRow (scalar : List Char) : Bool :=
  match withoutSign scalar with
  | '0' :: next :: rest => (next :: rest).all Char.isDigit
  | _ => false

/-- The number that digits spell, in decimal or in the base that their marker names. -/
def magnitude? : List Char → Option Nat
  | '0' :: 'x' :: rest => digitsValue? 16 rest
  | '0' :: 'o' :: rest => digitsValue? 8 rest
  | '0' :: 'b' :: rest => digitsValue? 2 rest
  | digits => digitsValue? 10 digits

/-- The natural number that a scalar spells. -/
def naturalOfChars? (scalar : List Char) : Option Nat :=
  if isPaddedRow scalar then none
  else
    match scalar with
    | '+' :: rest => magnitude? rest
    | _ => magnitude? scalar

/-- The natural number that a scalar spells. -/
def natural? (scalar : String) : Option Nat := naturalOfChars? scalar.toList

/-- The integer that a scalar spells. -/
def integer? (scalar : String) : Option Int :=
  match scalar.toList with
  | '-' :: rest =>
    if isPaddedRow scalar.toList then none else (magnitude? rest).map fun n => -(n : Int)
  | chars => (naturalOfChars? chars).map fun n => (n : Int)

/-- A decimal number: `digits` as a whole number, times ten to the `exponent`. -/
structure Decimal where
  digits : List Char
  exponent : Int

/-- The number that an exponent part spells; no part stands for zero. -/
def exponent? : List Char → Option Int
  | [] => some 0
  | mark :: rest =>
    if mark = 'e' ∨ mark = 'E' then
      match rest with
      | '-' :: digits => (digitsValue? 10 digits).map fun n => -(n : Int)
      | '+' :: digits => (digitsValue? 10 digits).map fun n => (n : Int)
      | digits => (digitsValue? 10 digits).map fun n => (n : Int)
    else none

/-- The decimal number that a row of digits with an optional point and an optional exponent
spells. -/
def decimal? (scalar : List Char) : Option Decimal :=
  let whole := scalar.takeWhile Char.isDigit
  let rest := scalar.dropWhile Char.isDigit
  match rest with
  | '.' :: after =>
    let fraction := after.takeWhile Char.isDigit
    if whole = [] ∧ fraction = [] then none
    else
      (exponent? (after.dropWhile Char.isDigit)).map fun exponent =>
        ⟨whole ++ fraction, exponent - fraction.length⟩
  | _ =>
    if whole = [] then none
    else (exponent? rest).map fun exponent => ⟨whole, exponent⟩

/-- The least number that rounds to infinity in 64-bit floating point. -/
def overflowBound : Nat := Nat.pow 2 1024 - Nat.pow 2 970

namespace Decimal

/-- Whether a decimal number rounds to a finite 64-bit floating-point number. -/
def isFinite (decimal : Decimal) : Bool :=
  let digits := decimal.digits.dropWhile (· == '0')
  let magnitude := decimal.exponent + digits.length
  if digits.isEmpty || magnitude < 300 then true
  else if 310 < magnitude then false
  else
    let value := digits.foldl (fun value c => 10 * value + (c.toNat - 48)) 0
    if 0 ≤ decimal.exponent then value * Nat.pow 10 decimal.exponent.toNat < overflowBound
    else value < overflowBound * Nat.pow 10 (-decimal.exponent).toNat

end Decimal

/-- Whether a scalar spells a floating-point number: an infinity, no number, or a finite decimal
number. -/
def isDecimal (scalar : String) : Bool :=
  if [".inf", ".Inf", ".INF", "+.inf", "+.Inf", "+.INF", "-.inf", "-.Inf", "-.INF", ".nan", ".NaN",
      ".NAN"].contains scalar then true
  else
    match decimal? (withoutSign scalar.toList) with
    | some decimal => decimal.isFinite
    | none => false

/-- The number of integers with a sign that 128 bits hold on either side of zero. -/
def wideLimit : Nat := Nat.pow 2 127

/-- The value that an unquoted scalar is where any value may stand. -/
def resolve (scalar : String) : Value :=
  if scalar = "" ∨ isNull scalar then .null
  else
    match bool? scalar with
    | some value => .bool value
    | none =>
      match integer? scalar with
      | some value =>
        if -(wideLimit : Int) ≤ value ∧ value < 2 * (wideLimit : Int) then .integer value
        else if isDecimal scalar then .decimal scalar
        else .text scalar
      | none =>
        if !isPaddedRow scalar.toList && isDecimal scalar then .decimal scalar else .text scalar

end DiskLayout.Scalar
