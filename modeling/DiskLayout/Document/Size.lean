import DiskLayout.Document.Decode
import DiskLayout.Size.Text

/-!
# Sizes in documents

A size is written as a bare number where no binary unit divides it, and as a text with a unit
otherwise.  Both forms are read.

## Main definitions

* `Size.encode`, `Size.decode` — writing and reading a size in a document
-/

namespace DiskLayout.Size

/-- Writes a size. -/
def encode (size : Nat) : Value := if isBare size then .number size else .text (render size)

/-- Reads a size: a natural number below 2^64 or a written size. -/
def decode : Decoder Nat := fun source =>
  match source.scalar? with
  | some (.text text) => (parse text).mapError fun error => Refusal.because error.message
  | some (.integer n) =>
    if 0 ≤ n ∧ n < limit then .ok n.toNat
    else .error (.because "invalid byte count size, expected unsigned integer")
  | some (.decimal _) => .error (.because "invalid byte count size, expected unsigned integer")
  | _ => .error (.because "invalid byte count size")

end DiskLayout.Size
