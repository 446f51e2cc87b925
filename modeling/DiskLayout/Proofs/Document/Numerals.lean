import DiskLayout.Proofs.Document.Words
import DiskLayout.Proofs.Size.RoundTrip

/-!
# Numbers in documents

A natural number is written as its decimal digits, without a needless zero in front.  In both
formats such digits are read as the integer that they spell.  In YAML digits with the letter of a
unit behind them are no number in any base and no decimal, so they are a text without quotes.

## Main results

* `exists_cons_toDigits` — no needless zero
* `Scalar.resolve_toString` — an unquoted number is read as the number
* `Scalar.resolve_toString_append` — an unquoted number with a unit is read as a text
* `Yaml.read_number`, `Json.read_number` — what is read of a written number
-/

namespace DiskLayout

/-! ### Digits -/

/-- The digits of a number that is not zero do not start with a zero. -/
theorem exists_cons_toDigits {n : Nat} (h : 0 < n) :
    ∃ first others, Nat.toDigits 10 n = first :: others ∧ first ≠ '0' := by
  induction n using Nat.strongRecOn with
  | ind n ih =>
    by_cases hsmall : n < 10
    · refine ⟨_, [], Nat.toDigits_of_lt_base hsmall, ?_⟩
      rw [ne_eq, Nat.digitChar_eq_zero]
      omega
    · -- Its first digit is that of its tenth part, which is not zero either.
      obtain ⟨first, others, hdigits, hne⟩ := ih (n / 10) (by omega) (by omega)
      refine ⟨first, others ++ [(n % 10).digitChar], ?_, hne⟩
      rw [Nat.toDigits_of_base_le (by decide) (Nat.not_lt.1 hsmall), hdigits]
      rfl

/-- The digits of a number are a word. -/
theorem isWord_toDigits (n : Nat) : IsWord (Nat.toDigits 10 n) where
  ne_nil := Nat.toDigits_ne_nil
  alphanumeric c hc := by simp [Char.isAlphanum, isDigit_of_mem_toDigits hc]

/-! ### Unquoted scalars -/

namespace Scalar

/-- A text is none of some texts that do not start with a digit if it does. -/
theorem contains_eq_false {texts : List String} {text : String}
    (htexts : (texts.all fun other => !other.toList.head?.any Char.isDigit) = true)
    (htext : text.toList.head?.any Char.isDigit = true) : texts.contains text = false := by
  rw [List.contains_eq_mem, decide_eq_false_iff_not]
  intro hmem
  have hother := List.all_eq_true.1 htexts text hmem
  rw [htext] at hother
  cases hother

theorem digitValue?_of_isDigit {c : Char} (h : c.isDigit = true) :
    digitValue? 10 c = some (c.toNat - 48) := by
  simp only [Char.isDigit, Bool.and_eq_true, decide_eq_true_eq, ge_iff_le] at h
  have hrange : '0' ≤ c ∧ c ≤ '9' := h
  have hcode : c.toNat ≤ 57 := UInt32.le_iff_toNat_le.1 h.2
  simp only [digitValue?, hrange, and_self, if_true, Option.filter_some]
  rw [decide_eq_true (by omega), if_pos rfl]

/-- Digits spell their decimal value. -/
theorem digitsValue?_eq {digits : List Char} (hne : digits ≠ [])
    (h : ∀ c ∈ digits, c.isDigit = true) :
    digitsValue? 10 digits = some (Size.decimalValue digits) := by
  -- What the digits in front stand for changes along the list, so it is left open.
  have hfold : ∀ value, digits.foldlM
      (fun value c => (digitValue? 10 c).map fun digit => 10 * value + digit) value =
        some (digits.foldl (fun value c => 10 * value + (c.toNat - 48)) value) := by
    clear hne
    induction digits with
    | nil => exact fun _ => rfl
    | cons c others ih =>
      rw [List.forall_mem_cons] at h
      intro value
      rw [List.foldlM_cons, digitValue?_of_isDigit h.1]
      exact ih h.2 _
  rw [digitsValue?, if_neg hne, hfold]
  rfl

/-- A character that is no digit spells nothing, wherever it stands. -/
theorem digitsValue?_eq_none {digits : List Char} {c : Char} (hmem : c ∈ digits)
    (h : digitValue? 10 c = none) : digitsValue? 10 digits = none := by
  have hfold : ∀ value, digits.foldlM
      (fun value c => (digitValue? 10 c).map fun digit => 10 * value + digit) value = none := by
    induction digits with
    | nil => cases hmem
    | cons first others ih =>
      intro value
      rw [List.foldlM_cons]
      rcases List.mem_cons.1 hmem with rfl | hmem
      · rw [h]
        rfl
      · cases digitValue? 10 first with
        | none => rfl
        | some digit => exact ih hmem _
  rw [digitsValue?, hfold, ite_self]

theorem magnitude?_eq {chars : List Char} (h : ∀ c ∈ chars, c ∉ ['x', 'o', 'b']) :
    magnitude? chars = digitsValue? 10 chars := by
  unfold magnitude?
  split
  · exact absurd (by decide) (h 'x' (by simp))
  · exact absurd (by decide) (h 'o' (by simp))
  · exact absurd (by decide) (h 'b' (by simp))
  · rfl

theorem withoutSign_of_isDigit {first : Char} (others : List Char) (h : first.isDigit = true) :
    withoutSign (first :: others) = first :: others := by
  unfold withoutSign
  split
  · rename_i hsign
    cases hsign
    exact absurd h (by decide)
  · rename_i hsign
    cases hsign
    exact absurd h (by decide)
  · rfl

/-- The digits of a number have no needless zero in front. -/
theorem isPaddedRow_toDigits (n : Nat) : isPaddedRow (Nat.toDigits 10 n) = false := by
  rcases Nat.eq_zero_or_pos n with rfl | hpos
  · rfl
  · obtain ⟨first, others, hdigits, hne⟩ := exists_cons_toDigits hpos
    have hfirst : first.isDigit = true := isDigit_of_mem_toDigits (hdigits ▸ List.mem_cons_self)
    rw [hdigits, isPaddedRow, withoutSign_of_isDigit others hfirst]
    split
    · rename_i hzero
      exact absurd (List.cons.inj hzero).1 hne
    · rfl

/-- A row of characters with another one than digits behind its first digit is not padded. -/
theorem isPaddedRow_eq_false {first c : Char} {others : List Char} (hfirst : first.isDigit = true)
    (hmem : c ∈ others) (hc : c.isDigit = false) : isPaddedRow (first :: others) = false := by
  rw [isPaddedRow, withoutSign_of_isDigit others hfirst]
  split
  · rename_i hzero
    obtain ⟨-, rfl⟩ := List.cons.inj hzero
    rw [List.all_eq_false]
    exact ⟨c, hmem, by simp [hc]⟩
  · rfl

/-- A text that starts with a digit is an integer if it spells one, else a decimal or a text. -/
theorem resolve_eq {text : String} (h : text.toList.head?.any Char.isDigit = true) :
    resolve text =
      match integer? text with
      | some value =>
        if -(wideLimit : Int) ≤ value ∧ value < 2 * (wideLimit : Int) then .integer value
        else if isDecimal text then .decimal text
        else .text text
      | none =>
        if !isPaddedRow text.toList && isDecimal text then .decimal text else .text text := by
  have hne : text ≠ "" := by
    rintro rfl
    cases h
  have hnull : isNull text = false := contains_eq_false (by decide) h
  have hbool : bool? text = none := by
    unfold bool?
    rw [contains_eq_false (by decide) h, contains_eq_false (by decide) h]
    rfl
  unfold resolve
  rw [if_neg (by simp [hne, hnull])]
  split
  · rename_i htruth
    rw [hbool] at htruth
    cases htruth
  · rfl

/-- The integer that a text spells that starts with a digit and has no mark of a base. -/
theorem integer?_eq {text : String} (h : text.toList.head?.any Char.isDigit = true)
    (hpadded : isPaddedRow text.toList = false) (hmarks : ∀ c ∈ text.toList, c ∉ ['x', 'o', 'b']) :
    integer? text = (digitsValue? 10 text.toList).map fun n => (n : Int) := by
  unfold integer?
  split
  · rename_i hminus
    rw [hminus] at h
    exact absurd h Bool.false_ne_true
  · unfold naturalOfChars?
    rw [hpadded, if_neg Bool.false_ne_true]
    split
    · rename_i hplus
      rw [hplus] at h
      exact absurd h Bool.false_ne_true
    · rw [magnitude?_eq hmarks]

theorem exists_digit_toDigits (n : Nat) :
    ∃ first others, Nat.toDigits 10 n = first :: others ∧ first.isDigit = true := by
  obtain ⟨first, others, hdigits⟩ :=
    List.exists_cons_of_ne_nil (Nat.toDigits_ne_nil (b := 10) (n := n))
  exact ⟨first, others, hdigits, isDigit_of_mem_toDigits (hdigits ▸ List.mem_cons_self)⟩

/-- A written number is read as the number. -/
theorem resolve_toString {n : Nat} (h : n < 2 * wideLimit) : resolve (toString n) = .number n := by
  have hhead : (toString n).toList.head?.any Char.isDigit = true := by
    obtain ⟨first, others, hdigits, hfirst⟩ := exists_digit_toDigits n
    rw [toList_toString, hdigits]
    exact hfirst
  have hinteger : integer? (toString n) = some (n : Int) := by
    rw [integer?_eq hhead, toList_toString,
      digitsValue?_eq Nat.toDigits_ne_nil fun _ => isDigit_of_mem_toDigits,
      Size.decimalValue_toDigits]
    · rfl
    · rw [toList_toString]
      exact isPaddedRow_toDigits n
    · intro c hc
      rw [toList_toString] at hc
      exact not_mem_of_all (isDigit_of_mem_toDigits hc) _ (by decide)
  rw [resolve_eq hhead, hinteger]
  have hrange : -(wideLimit : Int) ≤ n ∧ (n : Int) < 2 * (wideLimit : Int) := by omega
  exact if_pos hrange

/-- Digits with a character behind them that is no mark of a decimal number spell none. -/
theorem decimal?_eq_none {digits : List Char} {c : Char}
    (hdigits : ∀ digit ∈ digits, digit.isDigit = true) (hdigit : c.isDigit = false)
    (hmarks : c ∉ ['.', 'e', 'E']) : decimal? (digits ++ [c]) = none := by
  obtain ⟨htake, hdrop⟩ := span_isDigit hdigits (List.forall_mem_singleton.2 hdigit)
  simp only [List.mem_cons, List.not_mem_nil, or_false, not_or] at hmarks
  have hexponent : exponent? [c] = none := if_neg (by simp [hmarks])
  unfold decimal?
  dsimp only
  rw [htake, hdrop]
  split
  · rename_i hpoint
    exact absurd (List.cons.inj hpoint).1 hmarks.1
  · rw [hexponent]
    exact ite_self none

/-- A number with the letter of a unit behind it is read as a text. -/
theorem resolve_toString_append {n : Nat} {unit : String} {letter : Char}
    (hunit : unit.toList = [letter]) (h : letter ∈ ['K', 'M', 'G', 'T']) :
    resolve (toString n ++ unit) = .text (toString n ++ unit) ∧
      isPaddedRow (toString n ++ unit).toList = false := by
  obtain ⟨first, others, hdigits, hfirst⟩ := exists_digit_toDigits n
  have htext : (toString n ++ unit).toList = Nat.toDigits 10 n ++ [letter] := by
    rw [String.toList_append, toList_toString, hunit]
  have hhead : (toString n ++ unit).toList.head?.any Char.isDigit = true := by
    rw [htext, hdigits]
    exact hfirst
  -- All that matters of the letter is that it is no digit and no mark of a base or an exponent.
  obtain ⟨hdigit, hvalue, hmarks⟩ : letter.isDigit = false ∧ digitValue? 10 letter = none ∧
      letter ∉ ['x', 'o', 'b', '.', 'e', 'E'] := by
    simp only [List.mem_cons, List.not_mem_nil, or_false] at h
    rcases h with rfl | rfl | rfl | rfl <;> decide
  have hpadded : isPaddedRow (Nat.toDigits 10 n ++ [letter]) = false := by
    rw [hdigits]
    exact isPaddedRow_eq_false hfirst (List.mem_append_right _ List.mem_cons_self) hdigit
  have hinteger : integer? (toString n ++ unit) = none := by
    rw [integer?_eq hhead (htext ▸ hpadded), htext,
      digitsValue?_eq_none (List.mem_append_right _ List.mem_cons_self) hvalue]
    · rfl
    · intro c hc
      rw [htext, List.mem_append, List.mem_singleton] at hc
      rcases hc with hc | rfl
      · exact not_mem_of_all (isDigit_of_mem_toDigits hc) _ (by decide)
      · exact fun hmem => hmarks (List.mem_append_left ['.', 'e', 'E'] hmem)
  have hdecimal : isDecimal (toString n ++ unit) = false := by
    have hnone : decimal? (Nat.toDigits 10 n ++ [letter]) = none :=
      decimal?_eq_none (fun _ => isDigit_of_mem_toDigits) hdigit fun hmem =>
        hmarks (List.mem_append_right ['x', 'o', 'b'] hmem)
    unfold isDecimal
    rw [contains_eq_false (by decide) hhead, if_neg Bool.false_ne_true, htext, hdigits,
      List.cons_append, withoutSign_of_isDigit _ hfirst, ← List.cons_append, ← hdigits, hnone]
  rw [resolve_eq hhead, hinteger, hdecimal, htext]
  exact ⟨by simp, hpadded⟩

end Scalar

/-- A number is written and read as an unquoted scalar. -/
theorem Yaml.read_number (n : Nat) :
    read (render (.number n)) = some (.scalar none .plain (toString n)) := by
  have hroot : writeRoot (.number n) = Nat.toDigits 10 n := toList_toString n
  rw [render_eq_word (isWord_toDigits n) hroot, read_word (isWord_toDigits n), ← toList_toString,
    String.ofList_toList]

/-! ### Numbers in JSON -/

namespace Json

theorem isWhole_toDigits (n : Nat) : isWhole (Nat.toDigits 10 n) = true := by
  rcases Nat.eq_zero_or_pos n with rfl | hpos
  · rfl
  · obtain ⟨first, others, hdigits, hne⟩ := exists_cons_toDigits hpos
    rw [hdigits]
    unfold isWhole
    split
    · rename_i hnil
      cases hnil
    · rename_i hzero
      exact absurd (List.cons.inj hzero).1 hne
    · rfl

/-- The digits of a number are read as the number. -/
theorem number?_toDigits {n : Nat} (h : n < integerLimit) :
    number? (Nat.toDigits 10 n) = some (.number n) := by
  have hsplit := span_isDigit (fun _ => isDigit_of_mem_toDigits (n := n)) (List.forall_mem_nil _)
  rw [List.append_nil] at hsplit
  have hvalue : (Scalar.digitsValue? 10 (Nat.toDigits 10 n)).bind (integer? false) =
      some (n : Int) := by
    rw [Scalar.digitsValue?_eq Nat.toDigits_ne_nil fun _ => isDigit_of_mem_toDigits,
      Size.decimalValue_toDigits]
    exact if_pos h
  have hnumber : numberOf? false (Nat.toDigits 10 n) = some (.number n) := by
    unfold numberOf?
    simp only [hsplit.1, hsplit.2, isWhole_toDigits, hvalue, if_true]
    rfl
  unfold number?
  split
  · rename_i rest hminus
    have hdigit : '-'.isDigit = true :=
      isDigit_of_mem_toDigits (n := n) (hminus ▸ List.mem_cons_self)
    exact absurd hdigit (by decide)
  · exact hnumber

theorem mark?_of_isDigit {c : Char} (h : c.isDigit = true) : mark? c = none := by
  unfold mark?
  split
  case h_7 => rfl
  all_goals exact absurd h (by decide)

/-- A word that starts with a digit is a number. -/
theorem word?_of_isDigit {c : Char} (h : c.isDigit = true) (others : List Char) :
    word? (c :: others) = number? (c :: others) := by
  have hne : ∀ word : List Char, word.head?.any Char.isDigit = false → c :: others ≠ word := by
    rintro _ hword rfl
    exact absurd (h.symm.trans hword) (by decide)
  unfold word?
  rw [if_neg (hne "null".toList (by decide)), if_neg (hne "true".toList (by decide)),
    if_neg (hne "false".toList (by decide))]

/-- A number is read back. -/
theorem read_number {n : Nat} (h : n < integerLimit) :
    read (render (.number n)) = some (.number n) := by
  obtain ⟨first, others, hdigits, hfirst⟩ := Scalar.exists_digit_toDigits n
  have hrender : (render (.number n)).toList = Nat.toDigits 10 n ++ ['\n'] := by
    change (toString n ++ "\n").toList = _
    rw [String.toList_append, toList_toString]
    rfl
  have htokens : tokens? (render (.number n)).toList = some [.scalar (.number n)] := by
    have hmarks := not_mem_of_all hfirst [' ', '\n', '\r', '\t', '\x22'] (by decide)
    simp only [List.mem_cons, List.not_mem_nil, or_false, not_or] at hmarks
    have hblank : isBlank first = false := by simp [isBlank, hmarks]
    have hword : ∀ c ∈ others, isWordChar c = true := by
      intro c hc
      have hdigit := isDigit_of_mem_toDigits (hdigits ▸ List.mem_cons_of_mem first hc)
      simp [isWordChar, Char.isAlphanum, hdigit]
    have htake : (others ++ ['\n']).takeWhile isWordChar = others := by
      rw [List.takeWhile_append_of_pos hword]
      exact List.append_nil others
    have hdrop : (others ++ ['\n']).dropWhile isWordChar = ['\n'] := by
      rw [List.dropWhile_append_of_pos hword]
      rfl
    rw [hrender, hdigits, List.cons_append, tokens?, hblank, if_neg Bool.false_ne_true,
      if_neg hmarks.2.2.2.2, mark?_of_isDigit hfirst]
    dsimp only
    rw [htake, hdrop, word?_of_isDigit hfirst, ← hdigits, number?_toDigits h, tokens?_lineEnd]
    rfl
  unfold read
  rw [htokens]
  rfl

end Json

end DiskLayout
