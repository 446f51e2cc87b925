import DiskLayout.Size.Basic
import Mathlib.Algebra.BigOperators.Ring.List
import Mathlib.Algebra.Order.BigOperators.Group.List
import Mathlib.Algebra.Order.Ring.Nat
import Mathlib.Data.List.Forall2

/-!
# Laws of alignment

Aligning up gives the least multiple of an alignment that is not below a size, and aligning down
the greatest that is not above.  The laws say so, and what follows for sums of aligned sizes.

## Main results

* `alignUp_le_iff`, `le_alignDown_iff` — aligned sizes among the multiples of the alignment
* `Size.sum_mod` — a sum of multiples is a multiple
-/

namespace DiskLayout

section Laws

variable {value bound alignment : Nat}

theorem alignUp_of_mod (h : value % alignment = 0) : alignUp value alignment = value :=
  if_pos (Or.inr h)

theorem alignDown_mod (value : Nat) (h : alignment ≠ 0) :
    alignDown value alignment % alignment = 0 := by
  rw [alignDown, if_neg h, Nat.sub_mod_eq_zero_of_mod_eq (Nat.mod_mod _ _).symm]

theorem alignUp_max_pos {first second alignment : Nat} (h : 0 < first ∨ 0 < second) :
    0 < alignUp (max first second) alignment := by
  have hle := le_alignUp (max first second) alignment
  omega

/-- Among the multiples of an alignment, those not below the aligned size are those not below the
size itself. -/
theorem alignUp_le_iff (hbound : bound % alignment = 0) :
    alignUp value alignment ≤ bound ↔ value ≤ bound := by
  constructor
  · exact Nat.le_trans (le_alignUp value alignment)
  · intro hle
    unfold alignUp
    split
    · exact hle
    · rename_i hcase
      rw [not_or] at hcase
      obtain ⟨count, rfl⟩ := Nat.dvd_of_mod_eq_zero hbound
      have hlt : value / alignment < count := by
        rw [Nat.div_lt_iff_lt_mul (Nat.pos_of_ne_zero hcase.1), Nat.mul_comm]
        exact Nat.lt_of_le_of_ne hle fun heq => hcase.2 (heq ▸ Nat.mul_mod_right alignment count)
      rw [Nat.mul_comm alignment]
      exact Nat.mul_le_mul_right alignment hlt

theorem alignUp_mono {larger : Nat} (h : alignment ≠ 0) (hle : value ≤ larger) :
    alignUp value alignment ≤ alignUp larger alignment :=
  (alignUp_le_iff (alignUp_mod larger h)).2 (Nat.le_trans hle (le_alignUp larger alignment))

theorem alignUp_max {other : Nat} (h : alignment ≠ 0) :
    alignUp (max value other) alignment =
      max (alignUp value alignment) (alignUp other alignment) := by
  rcases Nat.le_total value other with hle | hle
  · rw [Nat.max_eq_right hle, Nat.max_eq_right (alignUp_mono h hle)]
  · rw [Nat.max_eq_left hle, Nat.max_eq_left (alignUp_mono h hle)]

/-- Aligning up adds less than the alignment. -/
theorem alignUp_lt (h : alignment ≠ 0) : alignUp value alignment < value + alignment := by
  unfold alignUp
  split
  · exact Nat.lt_add_of_pos_right (Nat.pos_of_ne_zero h)
  · rename_i hcase
    have hdiv := Nat.div_add_mod' value alignment
    rw [not_or] at hcase
    rw [Nat.add_mul, Nat.one_mul]
    omega

/-- Among the multiples of an alignment, those not above the aligned size are those not above the
size itself. -/
theorem le_alignDown_iff (hvalue : value % alignment = 0) :
    value ≤ alignDown bound alignment ↔ value ≤ bound := by
  constructor
  · exact fun hle => Nat.le_trans hle (alignDown_le bound alignment)
  · intro hle
    unfold alignDown
    split
    · exact hle
    · obtain ⟨count, rfl⟩ := Nat.dvd_of_mod_eq_zero hvalue
      have hcount : count ≤ bound / alignment := by
        rw [Nat.le_div_iff_mul_le (Nat.pos_of_ne_zero ‹_›), Nat.mul_comm]
        exact hle
      have hdiv := Nat.div_add_mod bound alignment
      have hmul := Nat.mul_le_mul_left alignment hcount
      omega

end Laws

namespace Size

theorem sector_ne_zero : sector ≠ 0 := by decide

theorem partitionGrain_ne_zero : partitionGrain ≠ 0 := by decide

theorem extent_ne_zero : extent ≠ 0 := by decide

/-- Whole grains are whole sectors. -/
theorem mod_sector_of_mod_partitionGrain {size : Nat} (h : size % partitionGrain = 0) :
    size % sector = 0 := by
  unfold partitionGrain mebibyte at h
  unfold sector
  omega

/-- A sum of multiples is a multiple. -/
theorem sum_mod {alignment : Nat} {sizes : List Nat} (h : ∀ size ∈ sizes, size % alignment = 0) :
    sizes.sum % alignment = 0 :=
  Nat.mod_eq_zero_of_dvd (List.dvd_sum fun size hsize => Nat.dvd_of_mod_eq_zero (h size hsize))

end Size

end DiskLayout
