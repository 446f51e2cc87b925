import DiskLayout.Proofs.Size.RoundTrip
import Mathlib.Data.Nat.Digits.Defs

/-!
# The grammar of sizes

A text is a size if, without the blanks around it, it consists of digits, blanks and a unit.  Any
text is cut in this way, and then its digits or its unit may be none.  The parts decide whether the
text is read, and if it is not, which of unit, number and product is reported.

## Main definitions

* `Size.units` — the spellings of units
* `Size.Spells` — the grammar: digits, blanks and a unit
* `SizeParts`, `SizeParts.CutFrom` — the parts of any text
* `SizeParts.Fault` — what is reported of parts that are no size

## Main results

* `SizeParts.cutFrom_iff` — every text is cut in one way
* `Size.spells_iff` — the grammar in terms of the parts
* `Size.parse_decides` — the texts that are read, and what is reported of the others
-/

namespace DiskLayout

namespace Size

/-- The spellings of units with what they stand for: powers of 1024, and of 1000 with a `B`. -/
def units : List (String × Nat) :=
  [("", 1), ("B", 1), ("K", 1024), ("KiB", 1024), ("M", 1024 ^ 2), ("MiB", 1024 ^ 2),
    ("G", 1024 ^ 3), ("GiB", 1024 ^ 3), ("T", 1024 ^ 4), ("TiB", 1024 ^ 4), ("kB", 1000),
    ("KB", 1000), ("MB", 1000 ^ 2), ("GB", 1000 ^ 3), ("TB", 1000 ^ 4)]

/-- The number that decimal digits stand for, most significant first. -/
def numberOf (digits : List Char) : Nat :=
  Nat.ofDigits 10 (digits.reverse.map fun digit => digit.toNat - '0'.toNat)

/-- Whether a text is, but for the blanks around it, a number in digits and then, possibly behind
blanks, a unit. -/
def Spells (text : List Char) (number factor : Nat) : Prop :=
  ∃ digits gap unit, Blank.Trims text (digits ++ gap ++ unit) ∧
    digits ≠ [] ∧ (∀ c ∈ digits, c.isDigit = true) ∧ numberOf digits = number ∧
    (∀ c ∈ gap, Blank.isBlank c = true) ∧ (String.ofList unit, factor) ∈ units

end Size

/-- The parts of a text that is read as a size: the text itself without the blanks around it, the
digits at its start, and what follows them, again without blanks around it. -/
structure SizeParts where
  trimmed : List Char
  digits : List Char
  unit : List Char

namespace SizeParts

/-- Whether parts are those of a text.  What follows the digits does not start with another one. -/
structure CutFrom (parts : SizeParts) (text : List Char) : Prop where
  trims : Blank.Trims text parts.trimmed
  isDigit : ∀ c ∈ parts.digits, c.isDigit = true
  exists_rest : ∃ rest, parts.trimmed = parts.digits ++ rest ∧
    (∀ c ∈ rest.head?, c.isDigit = false) ∧ Blank.Trims rest parts.unit

/-- Whether the unit of some parts stands for a number of bytes. -/
def HasFactor (parts : SizeParts) (factor : Nat) : Prop :=
  (String.ofList parts.unit, factor) ∈ Size.units

/-- What is reported of parts that are no size.  A unit that is unknown comes first, then a number
that is missing or too large, and last a product that is. -/
inductive Fault (parts : SizeParts) : SizeError → Prop
  | unknownUnits (hunit : ∀ factor, ¬ parts.HasFactor factor) :
      Fault parts (.unknownUnits (String.ofList parts.trimmed))
  | noNumber {factor : Nat} (hunit : parts.HasFactor factor) (hdigits : parts.digits = []) :
      Fault parts (.invalidNumber (String.ofList parts.trimmed) .empty)
  | largeNumber {factor : Nat} (hunit : parts.HasFactor factor)
      (hnumber : 2 ^ 64 ≤ Size.numberOf parts.digits) :
      Fault parts (.invalidNumber (String.ofList parts.trimmed) .tooLarge)
  | overflow {factor : Nat} (hunit : parts.HasFactor factor) (hdigits : parts.digits ≠ [])
      (hnumber : Size.numberOf parts.digits < 2 ^ 64)
      (hproduct : 2 ^ 64 ≤ Size.numberOf parts.digits * factor) :
      Fault parts (.overflow (String.ofList parts.trimmed))

/-- The parts of a text. -/
def cut (text : List Char) : SizeParts where
  trimmed := Blank.trim text
  digits := (Blank.trim text).takeWhile Char.isDigit
  unit := Blank.trim ((Blank.trim text).dropWhile Char.isDigit)

/-- Every text is cut in one way. -/
theorem cutFrom_iff {parts : SizeParts} {text : List Char} :
    parts.CutFrom text ↔ parts = cut text := by
  constructor
  · rintro ⟨htrims, hdigits, rest, hrest, hhead, hunit⟩
    obtain ⟨trimmed, digits, unit⟩ := parts
    dsimp only at htrims hdigits hrest hhead hunit
    rw [← Blank.trim_eq_iff] at htrims hunit
    have hnone : rest.takeWhile Char.isDigit = [] ∧ rest.dropWhile Char.isDigit = rest := by
      cases rest with
      | nil => exact ⟨rfl, rfl⟩
      | cons first others => simp [hhead first rfl]
    rw [cut, htrims, hrest, List.takeWhile_append_of_pos hdigits,
      List.dropWhile_append_of_pos hdigits, hnone.1, hnone.2, hunit, List.append_nil]
  · rintro rfl
    refine ⟨Blank.trims_trim text, fun c hc => List.mem_takeWhile_imp hc, _,
      List.takeWhile_append_dropWhile.symm, fun c hc => ?_, Blank.trims_trim _⟩
    have hnot := List.head?_dropWhile_not Char.isDigit (cut text).trimmed
    rw [Option.mem_def.1 hc] at hnot
    simpa using hnot

end SizeParts

namespace Size

/-! ### Units and numbers -/

theorem multiplier?_eq_some {unit : String} {factor : Nat} :
    multiplier? unit = some factor ↔ (unit, factor) ∈ units := by
  constructor
  · intro h
    unfold multiplier? at h
    split at h
    case h_16 => cases h
    all_goals
      obtain rfl := Option.some.inj h
      decide
  · intro h
    have hall : ∀ entry ∈ units, multiplier? entry.1 = some entry.2 := by decide
    exact hall (unit, factor) h

/-- No unit contains a blank or a digit. -/
theorem of_mem_unit {unit : String} {factor : Nat} (h : (unit, factor) ∈ units) {c : Char}
    (hc : c ∈ unit.toList) : Blank.isBlank c = false ∧ c.isDigit = false := by
  have hall : units.all (fun entry => entry.1.toList.all fun c =>
      !Blank.isBlank c && !c.isDigit) = true := by decide
  simpa using List.all_eq_true.1 (List.all_eq_true.1 hall _ h) c hc

theorem one_le_of_mem_units {unit : String} {factor : Nat} (h : (unit, factor) ∈ units) :
    1 ≤ factor := by
  have hall : ∀ entry ∈ units, 1 ≤ entry.2 := by decide
  exact hall (unit, factor) h

theorem decimalValue_eq (digits : List Char) : decimalValue digits = numberOf digits := by
  rw [numberOf, Nat.ofDigits_eq_foldr, List.foldr_map, List.foldr_reverse, decimalValue]
  congr 1
  funext value digit
  exact Nat.add_comm _ _

/-! ### The grammar and the parts -/

/-- A text is a size exactly if its parts are digits and a unit. -/
theorem spells_iff {text : List Char} {number factor : Nat} :
    Spells text number factor ↔
      ∃ parts : SizeParts, parts.CutFrom text ∧ parts.digits ≠ [] ∧ parts.HasFactor factor ∧
        numberOf parts.digits = number := by
  constructor
  · rintro ⟨digits, gap, unit, htrims, hne, hdigits, hnumber, hgap, hunit⟩
    have hletters : ∀ c ∈ unit, Blank.isBlank c = false ∧ c.isDigit = false := by
      intro c hc
      exact of_mem_unit hunit (by rwa [String.toList_ofList])
    refine ⟨⟨_, digits, unit⟩, ⟨htrims, hdigits, gap ++ unit, ?_, ?_, ?_⟩, hne, hunit, hnumber⟩
    · exact List.append_assoc digits gap unit
    · -- The digits end where a blank or a unit starts.
      intro c hc
      rcases List.mem_append.1 (List.mem_of_mem_head? hc) with hmem | hmem
      · by_contra hdigit
        have hblank := Blank.isBlank_eq_false_of_isDigit (Bool.eq_true_of_not_eq_false hdigit)
        rw [hgap c hmem] at hblank
        cases hblank
      · exact (hletters c hmem).2
    · refine ⟨⟨fun c hc => ?_, fun c hc => ?_⟩, gap, [], by simp, hgap, by simp⟩
      · exact (hletters c (List.mem_of_mem_head? hc)).1
      · exact (hletters c (List.mem_of_mem_getLast? hc)).1
  · rintro ⟨⟨trimmed, digits, unit⟩, hparts, hne, hfactor, hnumber⟩
    obtain ⟨htrims, hdigits, rest, hrest, -, hunit⟩ := hparts
    dsimp only at htrims hdigits hrest hunit hne hnumber
    obtain ⟨-, gap, after, hsplit, hgap, hafter⟩ := hunit
    -- The whole text is trimmed, so there are no blanks behind its unit.
    have hnil : after = [] := by
      by_contra hsome
      obtain ⟨last, hlast⟩ := Option.isSome_iff_exists.1 (List.getLast?_isSome.2 hsome)
      have hblank := hafter last (List.mem_of_mem_getLast? hlast)
      have hend : trimmed.getLast? = some last := by
        rw [hrest, hsplit, ← List.append_assoc, List.getLast?_append, hlast]
        rfl
      rw [htrims.isTrimmed.last last hend] at hblank
      cases hblank
    refine ⟨digits, gap, unit, ?_, hne, hdigits, hnumber, hgap, hfactor⟩
    rw [hrest, hsplit, hnil, List.append_nil, ← List.append_assoc] at htrims
    exact htrims

/-! ### What is read -/

/-- The outcome of reading a text in terms of its parts. -/
theorem parse_eq {text : String} {parts : SizeParts} (hparts : parts.CutFrom text.toList) :
    parse text =
      match multiplier? (String.ofList parts.unit) with
      | none => .error (.unknownUnits (String.ofList parts.trimmed))
      | some factor =>
        if parts.digits = [] then .error (.invalidNumber (String.ofList parts.trimmed) .empty)
        else if 2 ^ 64 ≤ numberOf parts.digits then
          .error (.invalidNumber (String.ofList parts.trimmed) .tooLarge)
        else if 2 ^ 64 ≤ numberOf parts.digits * factor then
          .error (.overflow (String.ofList parts.trimmed))
        else .ok (numberOf parts.digits * factor) := by
  obtain rfl := SizeParts.cutFrom_iff.1 hparts
  have hlimit : limit = 2 ^ 64 := rfl
  simp only [parse, SizeParts.cut, decimalValue_eq, hlimit]
  cases multiplier? _ <;> rfl

theorem parse_eq_ok_iff {text : String} {parts : SizeParts} (hparts : parts.CutFrom text.toList)
    {size : Nat} :
    parse text = .ok size ↔ parts.digits ≠ [] ∧
      ∃ factor, parts.HasFactor factor ∧ numberOf parts.digits * factor = size ∧ size < 2 ^ 64 := by
  rw [parse_eq hparts]
  cases hunit : multiplier? (String.ofList parts.unit) with
  | none =>
    have hnone : ∀ factor, ¬ parts.HasFactor factor := fun factor hfactor => by
      rw [multiplier?_eq_some.2 hfactor] at hunit
      cases hunit
    simp [hnone]
  | some factor =>
    have hfactor : ∀ other, parts.HasFactor other ↔ factor = other := fun other => by
      rw [SizeParts.HasFactor, ← multiplier?_eq_some, hunit, Option.some.injEq]
    have hcount : numberOf parts.digits ≤ numberOf parts.digits * factor :=
      Nat.le_mul_of_pos_right _ (one_le_of_mem_units (multiplier?_eq_some.1 hunit))
    simp only [hfactor, exists_eq_left']
    split
    · rename_i hdigits
      exact iff_of_false nofun fun h => h.1 hdigits
    split
    · refine iff_of_false nofun fun ⟨_, hsize, hlt⟩ => ?_
      omega
    split
    · refine iff_of_false nofun fun ⟨_, hsize, hlt⟩ => ?_
      omega
    · rename_i hdigits hnumber hproduct
      rw [Except.ok.injEq]
      exact ⟨fun h => ⟨hdigits, h, h ▸ Nat.not_le.1 hproduct⟩, fun h => h.2.1⟩

theorem parse_eq_error_iff {text : String} {parts : SizeParts}
    (hparts : parts.CutFrom text.toList) {error : SizeError} :
    parse text = .error error ↔ parts.Fault error := by
  constructor
  · intro h
    rw [parse_eq hparts] at h
    cases hunit : multiplier? (String.ofList parts.unit) with
    | none =>
      rw [hunit] at h
      obtain rfl := Except.error.inj h
      refine .unknownUnits fun factor hfactor => ?_
      rw [multiplier?_eq_some.2 hfactor] at hunit
      cases hunit
    | some factor =>
      rw [hunit] at h
      have hfactor := multiplier?_eq_some.1 hunit
      dsimp only at h
      split at h
      · obtain rfl := Except.error.inj h
        exact .noNumber hfactor ‹_›
      split at h
      · obtain rfl := Except.error.inj h
        exact .largeNumber hfactor ‹_›
      split at h
      · obtain rfl := Except.error.inj h
        exact .overflow hfactor ‹_› (Nat.not_le.1 ‹_›) ‹_›
      · cases h
  · rw [parse_eq hparts]
    rintro (hunit | ⟨hunit, hdigits⟩ | ⟨hunit, hnumber⟩ | ⟨hunit, hdigits, hnumber, hproduct⟩)
    · have hnone : multiplier? (String.ofList parts.unit) = none :=
        Option.eq_none_iff_forall_ne_some.2 fun factor h => hunit factor (multiplier?_eq_some.1 h)
      rw [hnone]
    · rw [multiplier?_eq_some.2 hunit]
      exact if_pos hdigits
    · have hdigits : parts.digits ≠ [] := fun h => by
        rw [h] at hnumber
        exact absurd hnumber (by decide)
      rw [multiplier?_eq_some.2 hunit]
      simp only [hdigits, hnumber, if_true, if_false]
    · rw [multiplier?_eq_some.2 hunit]
      simp only [hdigits, Nat.not_le.2 hnumber, hproduct, if_true, if_false]

/-- A text is read exactly if it is a number in digits and then a unit, and their product fits 64
bits: that product is the size.  Of any other text the fault of its parts is reported. -/
theorem parse_decides (text : String) :
    (∀ size, parse text = .ok size ↔
      ∃ number factor, Spells text.toList number factor ∧ number * factor = size ∧
        size < 2 ^ 64) ∧
    ∃ parts : SizeParts, (∀ other : SizeParts, other.CutFrom text.toList ↔ other = parts) ∧
      ∀ error, parse text = .error error ↔ parts.Fault error := by
  have hparts := SizeParts.cutFrom_iff.2 (rfl : SizeParts.cut text.toList = _)
  refine ⟨fun size => ?_, _, fun other => SizeParts.cutFrom_iff, fun error => ?_⟩
  · rw [parse_eq_ok_iff hparts]
    constructor
    · rintro ⟨hdigits, factor, hfactor, hsize⟩
      exact ⟨_, factor, spells_iff.2 ⟨_, hparts, hdigits, hfactor, rfl⟩, hsize⟩
    · rintro ⟨number, factor, hspells, hsize⟩
      obtain ⟨parts, hother, hdigits, hfactor, rfl⟩ := spells_iff.1 hspells
      obtain rfl := SizeParts.cutFrom_iff.1 hother
      exact ⟨hdigits, factor, hfactor, hsize⟩
  · exact parse_eq_error_iff hparts

example : parse " 0500 MiB\n" = .ok (500 * 1024 ^ 2) := by decide

end Size

end DiskLayout
