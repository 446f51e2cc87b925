import DiskLayout.Proofs.Text.Trimming
import DiskLayout.Size.Text
import Mathlib.Algebra.Group.Nat.Defs
import Mathlib.Tactic.Common

/-!
# Written sizes are read back

A size is written as digits and at most one letter.  Digits and letters are no blanks, so that
nothing is trimmed when the text is read, and the two parts are found again where they meet.

## Main results

* `Size.parse_number` — what a number with a unit is read as
* `Size.render_eq_shift` — the number and the unit that a size is written with
* `Size.parse_render` — a written size is read as the size
-/

namespace DiskLayout

theorem Blank.isBlank_eq_false_of_isDigit {c : Char} (h : c.isDigit = true) :
    isBlank c = false := by
  simp only [Char.isDigit, Bool.and_eq_true, decide_eq_true_eq, ge_iff_le,
    UInt32.le_iff_toNat_le] at h
  change 48 ≤ c.toNat ∧ c.toNat ≤ 57 at h
  simp only [isBlank, Bool.or_eq_false_iff, Bool.and_eq_false_iff, decide_eq_false_iff_not,
    beq_eq_false_iff_ne]
  omega

/-- Digits end where something else starts. -/
theorem span_isDigit {digits rest : List Char} (hdigits : ∀ c ∈ digits, c.isDigit = true)
    (hrest : ∀ c ∈ rest, c.isDigit = false) :
    (digits ++ rest).takeWhile Char.isDigit = digits ∧
      (digits ++ rest).dropWhile Char.isDigit = rest := by
  rw [List.takeWhile_append_of_pos hdigits, List.dropWhile_append_of_pos hdigits]
  cases rest with
  | nil => simp
  | cons first others => simp [hrest first List.mem_cons_self]

theorem toList_toString (n : Nat) : (toString n).toList = Nat.toDigits 10 n := by
  rw [Nat.toString_eq_repr, Nat.toList_repr]

theorem isDigit_of_mem_toDigits {n : Nat} {c : Char} (h : c ∈ Nat.toDigits 10 n) :
    c.isDigit = true :=
  Nat.isDigit_of_mem_toDigits (by decide) (by decide) h

namespace Size

/-- The value of the digits of a number is the number. -/
theorem decimalValue_toDigits (n : Nat) : decimalValue (Nat.toDigits 10 n) = n :=
  Nat.ofDigitChars_toDigits (by decide) (by decide)

/-- The units that are written, with what they stand for. -/
def writtenUnits : List (String × Nat) :=
  [("", 1), ("K", kibibyte), ("M", mebibyte), ("G", gibibyte), ("T", tebibyte)]

theorem multiplier?_of_mem {unit : String} {factor : Nat} (h : (unit, factor) ∈ writtenUnits) :
    multiplier? unit = some factor ∧ 0 < factor ∧
      ∀ c ∈ unit.toList, Blank.isBlank c = false ∧ c.isDigit = false := by
  have hletters : ∀ {letters : List Char},
      letters.all (fun c => !Blank.isBlank c && !c.isDigit) = true →
      ∀ c ∈ letters, Blank.isBlank c = false ∧ c.isDigit = false := by
    intro letters hall c hc
    simpa using List.all_eq_true.1 hall c hc
  simp only [writtenUnits, List.mem_cons, Prod.mk.injEq, List.not_mem_nil, or_false] at h
  rcases h with ⟨rfl, rfl⟩ | ⟨rfl, rfl⟩ | ⟨rfl, rfl⟩ | ⟨rfl, rfl⟩ | ⟨rfl, rfl⟩ <;>
    exact ⟨by decide, by decide, hletters (by decide)⟩

/-- A number with a unit is read as the size they stand for. -/
theorem parse_number {count factor : Nat} {unit : String} (hunit : (unit, factor) ∈ writtenUnits)
    (hsize : count * factor < limit) : parse (toString count ++ unit) = .ok (count * factor) := by
  obtain ⟨hmultiplier, hpos, hletters⟩ := multiplier?_of_mem hunit
  have hchars : (toString count ++ unit).toList = Nat.toDigits 10 count ++ unit.toList := by
    rw [String.toList_append, toList_toString]
  have hdigits : ∀ c ∈ Nat.toDigits 10 count, c.isDigit = true := fun _ =>
    isDigit_of_mem_toDigits
  -- Neither digits nor units are blanks, so the text is cut exactly where the two meet.
  have htrim : Blank.trim (Nat.toDigits 10 count ++ unit.toList) =
      Nat.toDigits 10 count ++ unit.toList := by
    refine Blank.trim_eq_self fun c hc => ?_
    rcases List.mem_append.1 hc with hc | hc
    · exact Blank.isBlank_eq_false_of_isDigit (hdigits c hc)
    · exact (hletters c hc).1
  obtain ⟨htake, hdrop⟩ := span_isDigit hdigits fun c hc => (hletters c hc).2
  have hcount : count < limit := Nat.lt_of_le_of_lt (Nat.le_mul_of_pos_right count hpos) hsize
  unfold parse
  dsimp only
  rw [hchars, htrim, htake, hdrop, Blank.trim_eq_self fun c hc => (hletters c hc).1,
    String.ofList_toList, hmultiplier, decimalValue_toDigits]
  simp only [Nat.toDigits_ne_nil, if_false, Nat.not_le.2 hcount, Nat.not_le.2 hsize]

/-- A size is written without its last binary zeros, in tens, and with the unit that stands for
these, which is the largest unit that divides the size. -/
theorem render_eq_shift (size : Nat) :
    ∃ step unit, writtenUnits[step]? = some (unit, 2 ^ (10 * step)) ∧ 2 ^ (10 * step) ∣ size ∧
      (size ≠ 0 → step < 4 → ¬ 2 ^ (10 * (step + 1)) ∣ size) ∧
      render size = toString (size >>> (10 * step)) ++ unit := by
  simp only [Nat.shiftRight_eq_div_pow, Nat.dvd_iff_mod_eq_zero]
  unfold render
  split
  · rename_i hzero
    exact ⟨0, "", rfl, Nat.mod_one size, fun hne => absurd hzero hne, by rw [hzero]; decide⟩
  split
  · exact ⟨4, "T", rfl, ‹_›, fun _ hlt => absurd hlt (by decide), rfl⟩
  split
  · exact ⟨3, "G", rfl, ‹_›, fun _ _ => ‹_›, rfl⟩
  split
  · exact ⟨2, "M", rfl, ‹_›, fun _ _ => ‹_›, rfl⟩
  split
  · exact ⟨1, "K", rfl, ‹_›, fun _ _ => ‹_›, rfl⟩
  · exact ⟨0, "", rfl, Nat.mod_one size, fun _ _ => ‹_›, by simp⟩

/-- A written size is a number with one of the units. -/
theorem render_eq_number (size : Nat) :
    ∃ count unit factor, (unit, factor) ∈ writtenUnits ∧ count * factor = size ∧
      render size = toString count ++ unit := by
  obtain ⟨step, unit, hunit, hdvd, -, hrender⟩ := render_eq_shift size
  refine ⟨_, unit, _, List.mem_of_getElem? hunit, ?_, hrender⟩
  rw [Nat.shiftRight_eq_div_pow]
  exact Nat.div_mul_cancel hdvd

/-- A written size is read as the size. -/
theorem parse_render {size : Nat} (h : size < limit) : parse (render size) = .ok size := by
  obtain ⟨count, unit, factor, hunit, hsize, hrender⟩ := render_eq_number size
  rw [hrender, parse_number hunit (hsize ▸ h), hsize]

/-- What is read as a size fits 64 bits. -/
theorem lt_limit_of_parse {text : String} {size : Nat} (h : parse text = .ok size) :
    size < limit := by
  unfold parse at h
  dsimp only at h
  split at h
  · cases h
  · rename_i factor _
    split at h
    · cases h
    split at h
    · cases h
    split at h
    · cases h
    · rename_i hoverflow
      obtain rfl := Except.ok.inj h
      exact Nat.not_le.1 hoverflow

end Size

end DiskLayout
