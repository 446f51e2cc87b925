/-!
# Floating-point numbers

Non-negative numbers of 64-bit floating point in exact arithmetic: the number nearest to a ratio,
products and quotients, and the fewest digits that tell a number from all others.

## Main definitions

* `Floating` — a mantissa times a power of two
* `Floating.ofRatio`, `Floating.ofDecimal` — the number for a ratio, and for a decimal number
* `Floating.shortest` — the fewest digits of a number, with a power of ten
* `Floating.render` — the written form of a number
-/

namespace DiskLayout.Json

/-- The number `mantissa` times two to the `exponent`.  The mantissa has 53 binary digits, or fewer
where the exponent is the least. -/
structure Floating where
  mantissa : Nat
  exponent : Int
deriving DecidableEq, Repr

/-- A quotient rounded to a natural number; a tie goes to the even neighbour. -/
def roundedQuotient (numerator denominator : Nat) : Nat :=
  let below := numerator / denominator
  let twice := 2 * (numerator % denominator)
  if denominator < twice ∨ (denominator = twice ∧ below % 2 = 1) then below + 1 else below

namespace Floating

/-- The least exponent. -/
def leastExponent : Int := -1074

/-- The greatest exponent of a finite number. -/
def greatestExponent : Int := 971

/-- The first number that is too large for a mantissa. -/
def mantissaLimit : Nat := Nat.pow 2 53

/-- Whether a number is finite. -/
def isFinite (number : Floating) : Bool := number.exponent ≤ greatestExponent

/-- A ratio divided by a power of two, as a ratio. -/
def scaledRatio (numerator denominator : Nat) (exponent : Int) : Nat × Nat :=
  if 0 ≤ exponent then (numerator, denominator * Nat.pow 2 exponent.toNat)
  else (numerator * Nat.pow 2 (-exponent).toNat, denominator)

/-- The number nearest to a ratio; a tie goes to the even mantissa. -/
def ofRatio (numerator denominator : Nat) : Floating :=
  let estimate := max leastExponent ((numerator.log2 : Int) - denominator.log2 - 53)
  let ratio := scaledRatio numerator denominator estimate
  let exponent := if mantissaLimit * ratio.2 ≤ ratio.1 then estimate + 1 else estimate
  let ratio := scaledRatio numerator denominator exponent
  let mantissa := roundedQuotient ratio.1 ratio.2
  if mantissa = mantissaLimit then ⟨mantissaLimit / 2, exponent + 1⟩ else ⟨mantissa, exponent⟩

/-- The number nearest to a ratio times a power of two. -/
def ofScaled (numerator denominator : Nat) (exponent : Int) : Floating :=
  let ratio := scaledRatio numerator denominator (-exponent)
  ofRatio ratio.1 ratio.2

/-- A product. -/
def times (first second : Floating) : Floating :=
  ofScaled (first.mantissa * second.mantissa) 1 (first.exponent + second.exponent)

/-- A quotient. -/
def dividedBy (first second : Floating) : Floating :=
  ofScaled first.mantissa second.mantissa (first.exponent - second.exponent)

/-- The greatest exponent of a power of ten that is finite. -/
def greatestPower : Nat := 308

/-- A power of ten. -/
def powerOfTen (exponent : Nat) : Floating := ofRatio (Nat.pow 10 exponent) 1

/-- A number divided by a power of ten, in steps by finite powers. -/
def lowered (number : Floating) (exponent : Nat) : Floating :=
  if number.mantissa = 0 then number
  else if exponent ≤ greatestPower then number.dividedBy (powerOfTen exponent)
  else (number.dividedBy (powerOfTen greatestPower)).lowered (exponent - greatestPower)
termination_by exponent
decreasing_by simp [greatestPower] at *; omega

/-- The number for a significand times a power of ten, both of which are rounded before they are
multiplied; none where the product is not finite. -/
def ofDecimal (significand : Nat) (exponent : Int) : Option Floating :=
  let number := ofRatio significand 1
  if exponent < 0 then some (number.lowered (-exponent).toNat)
  else if significand = 0 then some number
  else if greatestPower < exponent then none
  else
    let product := number.times (powerOfTen exponent.toNat)
    if product.isFinite then some product else none

/-- A natural number times a power of ten. -/
structure Digits where
  digits : Nat
  exponent : Int

/-- The number of decimal digits of a natural number. -/
def digitCount (n : Nat) : Nat := (Nat.toDigits 10 n).length

/-- The same number without zeros at its end; `fuel` bounds their number. -/
def Digits.trimmed : (fuel : Nat) → Digits → Digits
  | 0, number => number
  | fuel + 1, number =>
    if number.digits % 10 = 0 then trimmed fuel ⟨number.digits / 10, number.exponent + 1⟩
    else number

/-- What is needed to choose the digits of a number: the number and the ends of the interval of all
that is nearest to it, in units of one power of ten, and whether the ends belong to it. -/
structure Neighbourhood where
  low : Nat
  exact : Nat
  high : Nat
  closed : Bool
  exponent : Int

/-- The neighbourhood of a number; it reaches half as far below the least mantissa of an exponent
as above. -/
def neighbourhood (number : Floating) : Neighbourhood :=
  let narrow := number.mantissa = mantissaLimit / 2 ∧ leastExponent < number.exponent
  let quarter := number.exponent - 2
  let unit := if 0 ≤ quarter then Nat.pow 2 quarter.toNat else Nat.pow 5 (-quarter).toNat
  { low := (4 * number.mantissa - if narrow then 1 else 2) * unit
    exact := 4 * number.mantissa * unit
    high := (4 * number.mantissa + 2) * unit
    closed := number.mantissa % 2 = 0
    exponent := min quarter 0 }

/-- Whether a natural number lies in a neighbourhood. -/
def Neighbourhood.holds (around : Neighbourhood) (n : Nat) : Bool :=
  if around.closed then around.low ≤ n && n ≤ around.high else around.low < n && n < around.high

/-- The digits in a neighbourhood that are multiples of a power of ten and nearest to the number,
if there are any. -/
def Neighbourhood.multiple? (around : Neighbourhood) (power : Nat) : Option Digits :=
  let unit := Nat.pow 10 power
  let below := around.exact / unit
  let chosen : Option Nat :=
    match around.holds (below * unit), around.holds ((below + 1) * unit) with
    | true, true => some (roundedQuotient around.exact unit)
    | true, false => some below
    | false, true => some (below + 1)
    | false, false => none
  chosen.map fun digits => ⟨digits, around.exponent + power⟩

/-- The fewest digits that tell a number from all others. -/
def shortest (number : Floating) : Digits :=
  let around := number.neighbourhood
  let count := digitCount around.exact
  let found := (List.range count).findSome? fun given => around.multiple? (count - 1 - given)
  (found.getD ⟨around.exact, around.exponent⟩).trimmed count

/-- The greatest number of digits in front of the point. -/
def widestWhole : Int := 16

/-- The written form of a number: with a point where it needs at most sixteen digits in front and
at most four zeros behind it, else with one digit in front of the point and a power of ten. -/
def render (number : Floating) : List Char :=
  if number.mantissa = 0 then "0.0".toList
  else
    let found := number.shortest
    let digits := Nat.toDigits 10 found.digits
    let point := found.exponent + digits.length
    if 0 ≤ found.exponent ∧ point ≤ widestWhole then
      digits ++ List.replicate found.exponent.toNat '0' ++ ['.', '0']
    else if 0 < point ∧ point ≤ widestWhole then
      digits.take point.toNat ++ ['.'] ++ digits.drop point.toNat
    else if -5 < point ∧ point ≤ 0 then
      ['0', '.'] ++ List.replicate (-point).toNat '0' ++ digits
    else
      let fraction := if digits.length = 1 then [] else '.' :: digits.drop 1
      digits.take 1 ++ fraction ++ ['e'] ++ (toString (point - 1)).toList

end Floating

end DiskLayout.Json
