import DiskLayout.Error
import DiskLayout.Log
import DiskLayout.Size.Text

/-!
# Seeds

The seed of a random source is given explicitly, or by a variable of the environment, or chosen at
random.

## Main definitions

* `Seed.parse?` — the seed that a text spells
* `Seed.choose` — the seed among the three that counts
-/

namespace DiskLayout.Seed

/-- The variable of the environment that holds a seed. -/
def variableName : String := "DISKPLAN_RNG_SEED"

/-- The part of the program that reports which seed is used. -/
def target : String := "diskplan::idgen"

/-- The 64-bit number that decimal digits behind an optional plus sign spell. -/
def ofChars? (text : List Char) : Option Nat :=
  let digits := match text with
    | '+' :: digits => digits
    | digits => digits
  if digits = [] ∨ !digits.all Char.isDigit then none
  else if Size.limit ≤ Size.decimalValue digits then none
  else some (Size.decimalValue digits)

/-- The seed that a text spells. -/
def parse? (text : String) : Option Nat := ofChars? text.toList

/-- The seed that counts: the explicit one, else the one that the variable spells between blanks,
else the random one. -/
def choose (explicit : Option Nat) (given : Option String) (random : Nat) :
    Logged ConfigError Nat :=
  match explicit, given with
  | some seed, _ => pure seed
  | none, some value =>
    match ofChars? (Blank.trim value.toList) with
    | some seed => do
      Logged.note .debug target ("Using seed " ++ toString seed ++ " from $" ++ variableName)
      return seed
    | none => throw (.invalidSeed value)
  | none, none => do
    Logged.note .info target ("Using random seed " ++ toString random ++
      "; pass it with --seed to reproduce this build")
    return random

end DiskLayout.Seed
