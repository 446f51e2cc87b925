import DiskLayout.Document.Format
import DiskLayout.Document.Size
import DiskLayout.Proofs.Document.Numerals
import DiskLayout.Proofs.Document.Reading

/-!
# Sizes in documents are read back

A size that no binary unit divides is written as a bare number, and so is zero; every other size is
written as a text of some digits and the letter of a unit.  Both are words, and neither format takes
the one for the other: digits are read as an integer, digits with a letter behind them as a text.
The number in front of the unit times what the unit stands for is the size again, so the product
does not overflow when the text is read.

## Main results

* `DocumentFormat.read_encode` — what a document with a size alone holds
* `Size.reads` — a size is read back from whatever shows it
* `Size.written_readsBack` — a written size is read back, on its own and in a document
-/

namespace DiskLayout

variable {size : Nat}

/-! ### A size alone in a document -/

/-- A size that is not written as a bare number is written with the letter of a unit. -/
theorem Size.exists_letter (h : isBare size = false) :
    ∃ (count : Nat) (letter : Char) (unit : String), letter ∈ ['K', 'M', 'G', 'T'] ∧
      unit.toList = [letter] ∧ render size = toString count ++ unit := by
  obtain ⟨hdvd, hne⟩ : kibibyte ∣ size ∧ size ≠ 0 := by
    simpa [isBare, Nat.dvd_iff_mod_eq_zero] using h
  obtain ⟨step, unit, hunit, -, hlargest, hrender⟩ := render_eq_shift size
  -- The first unit divides the size, so it is not written without any.
  cases step with
  | zero => exact absurd hdvd (hlargest hne (by decide))
  | succ lower =>
    have hmem : (unit, 2 ^ (10 * (lower + 1))) ∈ writtenUnits.tail :=
      List.mem_of_getElem? (i := lower) hunit
    simp only [writtenUnits, List.tail_cons, List.mem_cons, Prod.mk.injEq, List.not_mem_nil,
      or_false] at hmem
    rcases hmem with ⟨rfl, -⟩ | ⟨rfl, -⟩ | ⟨rfl, -⟩ | ⟨rfl, -⟩ <;>
      exact ⟨_, _, _, by decide, rfl, hrender⟩

/-- What a document holds that has nothing in it but a size is the number or the text that the size
is written as. -/
theorem DocumentFormat.read_encode (format : DocumentFormat) (h : size < Size.limit) :
    ∃ source, format.read (format.render (Size.encode size)) = some source ∧
      source.scalar? = some (Size.encode size) := by
  cases hbare : Size.isBare size with
  | true =>
    rw [Size.encode, if_pos hbare]
    cases format with
    | yaml =>
      refine ⟨.node (.scalar none .plain (toString size)), ?_, ?_⟩
      · rw [render, read, Yaml.read_number, Option.map_some]
      · exact congrArg some (Scalar.resolve_toString (Nat.lt_trans h (by decide)))
    | json =>
      refine ⟨.value (.number size), ?_, rfl⟩
      rw [render, read, Json.read_number h, Option.map_some]
  | false =>
    obtain ⟨count, letter, unit, hletter, hunit, hrender⟩ := Size.exists_letter hbare
    have hletters : ['K', 'M', 'G', 'T'].all Char.isAlphanum = true := by decide
    have hword : IsWord (Size.render size).toList := by
      rw [hrender, String.toList_append, toList_toString, hunit]
      exact (isWord_toDigits count).append
        (List.forall_mem_singleton.2 (List.all_eq_true.1 hletters letter hletter))
    rw [Size.encode, hbare, if_neg Bool.false_ne_true]
    cases format with
    | yaml =>
      obtain ⟨hresolve, hpadded⟩ := Scalar.resolve_toString_append hunit hletter (n := count)
      rw [← hrender] at hresolve hpadded
      have hplain : Yaml.isAmbiguous (Size.render size) = false := by
        rw [Yaml.isAmbiguous, hresolve]
        exact hpadded
      refine ⟨.node (.scalar none .plain (Size.render size)), ?_, congrArg some hresolve⟩
      rw [render, read, Yaml.read_text_word hword hplain, Option.map_some]
    | json =>
      refine ⟨.value (.text (Size.render size)), ?_, rfl⟩
      rw [render, read, Json.read_text_word hword, Option.map_some]

namespace Size

/-- A size is read from the scalar that it is written as. -/
theorem decode_of_scalar? {source : Source} (h : size < limit)
    (hscalar : source.scalar? = some (encode size)) : decode source = .ok size := by
  rw [encode] at hscalar
  split at hscalar
  · rw [decode, hscalar]
    have hrange : (0 : Int) ≤ size ∧ (size : Int) < limit := by omega
    exact if_pos hrange
  · rw [decode, hscalar]
    dsimp only
    rw [parse_render h]
    rfl

/-- A size is read back, as a number or as a text. -/
theorem reads {bound : Nat} (h : size < limit) : decode.Reads bound (encode size) size := by
  intro source hshows _
  refine decode_of_scalar? h (hshows.scalar? ?_)
  rw [encode]
  split <;> trivial

/-- A written size is read back.  Its text is the size without its last binary zeros, in tens, with
the unit that stands for these; the two are multiplied again when the text is read, and the product
fits.  In a document a size is an integer if it is zero or no multiple of 1024 and its text
otherwise, and whatever shows that is read as the size, in both formats. -/
theorem written_readsBack (h : size < limit) :
    parse (render size) = .ok size ∧
      (∃ step unit, render size = toString (size >>> (10 * step)) ++ unit ∧
        multiplier? unit = some (2 ^ (10 * step)) ∧
        (size >>> (10 * step)) * 2 ^ (10 * step) = size) ∧
      encode size = (if size = 0 ∨ ¬ 1024 ∣ size then .number size else .text (render size)) ∧
      (∀ source : Source, source.Shows (encode size) → decode source = .ok size) ∧
      ∀ format : DocumentFormat,
        format.decode? decode (format.render (encode size)) = some size := by
  refine ⟨parse_render h, ?_, ?_, fun source hshows => ?_, fun format => ?_⟩
  · obtain ⟨step, unit, hunit, hdvd, -, hrender⟩ := render_eq_shift size
    refine ⟨step, unit, hrender, (multiplier?_of_mem (List.mem_of_getElem? hunit)).1, ?_⟩
    rw [Nat.shiftRight_eq_div_pow, Nat.div_mul_cancel hdvd]
  · have hbare : isBare size = true ↔ size = 0 ∨ ¬ 1024 ∣ size := by
      simp [isBare, kibibyte, Nat.dvd_iff_mod_eq_zero, or_comm]
    exact if_congr hbare rfl rfl
  · exact reads h source hshows (Nat.le_refl _)
  · obtain ⟨source, hread, hscalar⟩ := format.read_encode h
    rw [DocumentFormat.decode?, hread, Option.bind_some, decode_of_scalar? h hscalar]
    rfl

/-- The greatest power of two, the greatest multiple of a unit and the greatest size of all, as they
are written. -/
theorem written_readsBack_greatest :
    (2 ^ 63 < limit ∧ render (2 ^ 63) = "8388608T" ∧ parse "8388608T" = .ok (2 ^ 63)) ∧
      (2 ^ 64 - 2 ^ 10 < limit ∧
        Json.render (encode (2 ^ 64 - 2 ^ 10)) = "\x2218014398509481983K\x22\n" ∧
        DocumentFormat.json.decode? decode "\x2218014398509481983K\x22\n" =
          some (2 ^ 64 - 2 ^ 10)) ∧
      2 ^ 64 - 1 < limit ∧ Yaml.render (encode (2 ^ 64 - 1)) = "18446744073709551615\n" ∧
      DocumentFormat.yaml.decode? decode "18446744073709551615\n" = some (2 ^ 64 - 1) := by
  have hpower : 2 ^ 63 < limit := by decide
  have hmultiple : 2 ^ 64 - 2 ^ 10 < limit := by decide
  have hgreatest : 2 ^ 64 - 1 < limit := by decide
  obtain ⟨hparsed, -⟩ := written_readsBack hpower
  obtain ⟨-, -, -, -, hjson⟩ := written_readsBack hmultiple
  obtain ⟨-, -, -, -, hyaml⟩ := written_readsBack hgreatest
  exact ⟨⟨hpower, by decide, hparsed⟩, ⟨hmultiple, by decide, hjson .json⟩, hgreatest, by decide,
    hyaml .yaml⟩

end Size

end DiskLayout
