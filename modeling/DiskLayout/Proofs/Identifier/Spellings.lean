import DiskLayout.Identifier.Format
import DiskLayout.Proofs.Identifier.Forms

/-!
# Spellings of UUIDs

A UUID has four spellings.  Letter case does not matter in its digits, and a text spells at most one
UUID.  What is relied on of a format of UUIDs is that it reads these spellings and nothing else, and
writes one of them; whether it accepts capital letters in the word before the digits of the fourth
is left open.  The standard format accepts them.

## Main definitions

* `Uuid.spellings` — the four spellings of a UUID, in lowercase letters
* `Uuid.Spells` — the texts that spell a UUID, in any letter case
* `Uuid.SpellsPlainly` — those that every format reads
* `UuidFormat.Documented` — what is relied on of a format

## Main results

* `hexValue?_eq_some` — which digits spell a number
* `Uuid.ungroup?_eq_some` — which texts are digits in groups
* `Uuid.parse?_eq_some` — which texts the standard format reads
* `UuidFormat.standard_documented` — what is relied on holds of the standard format
-/

namespace DiskLayout

/-! ### Letter case -/

/-- What holds of all 128 characters of ASCII is decided by trying them. -/
theorem of_ascii (holds : Char → Prop) (h : ∀ code < 128, holds (Char.ofNat code)) {c : Char}
    (hc : c.toNat < 128) : holds c := by
  simpa using h c.toNat hc

/-- Letter case is changed in ASCII only. -/
theorem toLower_of_le {c : Char} (h : 128 ≤ c.toNat) : c.toLower = c := by
  refine dif_neg fun hupper => ?_
  have hle : c.toNat ≤ 90 := hupper.2
  omega

/-- Letters become letters, so only a mark itself becomes the mark. -/
theorem toLower_eq_iff {c mark : Char} (hmark : mark.isAlpha = false) :
    c.toLower = mark ↔ c = mark := by
  have hcase : c.toLower = c ∨ (c.isAlpha = true ∧ c.toLower.isAlpha = true) := by
    rcases Nat.lt_or_ge c.toNat 128 with hascii | hother
    · exact of_ascii (fun c => c.toLower = c ∨ (c.isAlpha = true ∧ c.toLower.isAlpha = true))
        (by decide) hascii
    · exact .inl (toLower_of_le hother)
  rcases hcase with hsame | ⟨hletter, hlower⟩
  · rw [hsame]
  · refine iff_of_false ?_ ?_
    · rintro rfl
      exact absurd hlower (by simp [hmark])
    · rintro rfl
      exact absurd hletter (by simp [hmark])

/-! ### Digits -/

theorem hexDigitValue?_hexDigit (value : Nat) :
    hexDigitValue? (hexDigit value) = some (value % 16) := by
  have hall : ∀ digit < 16, hexDigitValue? (Nat.digitChar digit) = some digit := by decide
  exact hall (value % 16) (Nat.mod_lt _ (by decide))

theorem hexValue?_append (value : Nat) (front back : List Char) :
    hexValue? value (front ++ back) =
      (hexValue? value front).bind fun middle => hexValue? middle back := by
  induction front generalizing value with
  | nil => rfl
  | cons digit others ih =>
    rw [List.cons_append, hexValue?, hexValue?]
    cases hexDigitValue? digit with
    | none => rfl
    | some digit => exact ih _

/-- Digits that are written are read as the end of the number. -/
theorem hexValue?_hexDigits (count value : Nat) :
    hexValue? 0 (hexDigits count value) = some (value % 16 ^ count) := by
  induction count generalizing value with
  | zero => simp [hexDigits, hexValue?, Nat.mod_one]
  | succ count ih =>
    rw [hexDigits, hexValue?_append, ih, Option.bind_some]
    simp only [hexValue?, hexDigitValue?_hexDigit]
    rw [Nat.pow_succ, Nat.mul_comm (16 ^ count) 16, Nat.mod_mul, Nat.add_comm]

theorem hexDigitValue?_toLower (c : Char) : hexDigitValue? c.toLower = hexDigitValue? c := by
  rcases Nat.lt_or_ge c.toNat 128 with hascii | hother
  · exact of_ascii (fun c => hexDigitValue? c.toLower = hexDigitValue? c) (by decide) hascii
  · rw [toLower_of_le hother]

theorem toLower_of_hexDigitValue? {c : Char} {digit : Nat} (h : hexDigitValue? c = some digit) :
    digit < 16 ∧ c.toLower = hexDigit digit := by
  rcases Nat.lt_or_ge c.toNat 128 with hascii | hother
  · have hall : ∀ code < 128, ∀ digit ∈ hexDigitValue? (Char.ofNat code),
        digit < 16 ∧ (Char.ofNat code).toLower = hexDigit digit := by decide
    exact of_ascii (fun c => ∀ digit ∈ hexDigitValue? c, digit < 16 ∧
      c.toLower = hexDigit digit) hall hascii digit h
  · -- No digit has a code as large as that.
    have hgreater : ∀ last : Char, last.toNat < 128 → ¬ c ≤ last := fun last hlast hc =>
      absurd (Nat.le_trans hother hc) (Nat.not_le.2 hlast)
    simp [hexDigitValue?, hgreater '9' (by decide), hgreater 'f' (by decide),
      hgreater 'F' (by decide)] at h

theorem hexValue?_map_toLower (value : Nat) (digits : List Char) :
    hexValue? value (digits.map Char.toLower) = hexValue? value digits := by
  induction digits generalizing value with
  | nil => rfl
  | cons digit others ih =>
    rw [List.map_cons, hexValue?, hexValue?, hexDigitValue?_toLower]
    cases hexDigitValue? digit with
    | none => rfl
    | some digit => exact ih _

theorem hexValue?_singleton (value : Nat) (digit : Char) :
    hexValue? value [digit] = (hexDigitValue? digit).map fun last => 16 * value + last := by
  rw [hexValue?]
  cases hexDigitValue? digit <;> rfl

/-- Digits spell a number exactly if they are, but for letter case, those that are written of it, and
there are enough of them for the number. -/
theorem hexValue?_eq_some {digits : List Char} {value : Nat} :
    hexValue? 0 digits = some value ↔
      digits.map Char.toLower = hexDigits digits.length value ∧ value < 16 ^ digits.length := by
  constructor
  · intro h
    -- The last digit is the remainder, and those before it spell the quotient.
    induction digits using List.reverseRecOn generalizing value with
    | nil =>
      obtain rfl := Option.some.inj h
      exact ⟨rfl, by decide⟩
    | append_singleton front last ih =>
      rw [hexValue?_append, Option.bind_eq_some_iff] at h
      obtain ⟨middle, hfront, hlast⟩ := h
      rw [hexValue?_singleton, Option.map_eq_some_iff] at hlast
      obtain ⟨digit, hdigit, rfl⟩ := hlast
      obtain ⟨hlt, hlower⟩ := toLower_of_hexDigitValue? hdigit
      obtain ⟨hdigits, hmiddle⟩ := ih hfront
      have hdiv : (16 * middle + digit) / 16 = middle := by omega
      have hmod : hexDigit (16 * middle + digit) = hexDigit digit := by
        rw [hexDigit, hexDigit, Nat.mul_add_mod]
      rw [List.map_append, List.length_append, List.length_singleton, hexDigits, hdiv, hmod,
        hdigits, List.map_singleton, hlower, pow_succ]
      exact ⟨rfl, by omega⟩
  · rintro ⟨hdigits, hlt⟩
    rw [← hexValue?_map_toLower, hdigits, hexValue?_hexDigits, Nat.mod_eq_of_lt hlt]

namespace Uuid

variable {uuid : Uuid} {text : List Char}

theorem ofDigits?_eq_some :
    ofDigits? text = some uuid ↔ text.map Char.toLower = hexDigits 32 uuid.bits.toNat := by
  unfold ofDigits?
  constructor
  · intro h
    split at h
    · rename_i hlength
      obtain ⟨value, hvalue, rfl⟩ := Option.map_eq_some_iff.1 h
      obtain ⟨hdigits, hlt⟩ := hexValue?_eq_some.1 hvalue
      rw [hlength] at hdigits hlt
      rw [hdigits, BitVec.toNat_ofNat, Nat.mod_eq_of_lt (show value < 2 ^ 128 from hlt)]
    · cases h
  · intro h
    have hlength : text.length = 32 := by simpa using congrArg List.length h
    have hvalue : hexValue? 0 text = some uuid.bits.toNat :=
      hexValue?_eq_some.2 ⟨by rw [hlength, h], by rw [hlength]; exact uuid.bits.isLt⟩
    rw [if_pos hlength, hvalue, Option.map_some, BitVec.ofNat_toNat, BitVec.setWidth_eq]

/-! ### Groups -/

theorem length_group {digits : List Char} (h : digits.length = 32) :
    (group digits).length = 36 := by
  simp [group, h]

/-- Thirty-two digits fall into five groups. -/
theorem exists_groups {digits : List Char} (h : digits.length = 32) :
    ∃ first second third fourth fifth, digits = first ++ second ++ third ++ fourth ++ fifth ∧
      first.length = 8 ∧ second.length = 4 ∧ third.length = 4 ∧ fourth.length = 4 ∧
      fifth.length = 12 := by
  refine ⟨digits.take 8, (digits.drop 8).take 4, ((digits.drop 8).drop 4).take 4,
    (((digits.drop 8).drop 4).drop 4).take 4, (((digits.drop 8).drop 4).drop 4).drop 4, ?_, ?_⟩
  · simp only [List.append_assoc, List.take_append_drop]
  · simp [h]

/-- Five groups of these lengths get hyphens between them. -/
theorem group_append {first second third : List Char} (fourth fifth : List Char)
    (hfirst : first.length = 8) (hsecond : second.length = 4) (hthird : third.length = 4)
    (hfourth : fourth.length = 4) :
    group (first ++ second ++ third ++ fourth ++ fifth) =
      first ++ '-' :: (second ++ '-' :: (third ++ '-' :: (fourth ++ '-' :: fifth))) := by
  simp (disch := omega) [group, List.drop_append, List.drop_of_length_le, hfirst, hsecond, hthird]

/-- Digits that were put into groups are taken out of them. -/
theorem ungroup?_group {digits : List Char} (h : digits.length = 32) :
    ungroup? (group digits) = some digits := by
  obtain ⟨first, second, third, fourth, fifth, rfl, hfirst, hsecond, hthird, hfourth, hfifth⟩ :=
    exists_groups h
  -- The groups have fixed lengths, so every position and every cut falls where they meet.
  rw [group_append fourth fifth hfirst hsecond hthird hfourth]
  simp (disch := omega) [ungroup?, List.drop_append, List.drop_of_length_le,
    List.getElem?_append_right, hfirst, hsecond, hthird, hfourth, hfifth]
  exact ⟨rfl, rfl, rfl, rfl⟩

theorem map_group {convert : Char → Char} (h : convert '-' = '-') (digits : List Char) :
    (group digits).map convert = group (digits.map convert) := by
  simp [group, h, List.map_take, List.map_drop]

/-- What follows a position, up to a mark and behind it. -/
theorem drop_eq_append (index count : Nat) {mark : Char} (h : text[index + count]? = some mark) :
    text.drop index =
      (text.drop index).take count ++ mark :: text.drop (index + count + 1) := by
  obtain ⟨hlt, rfl⟩ := List.getElem?_eq_some_iff.1 h
  rw [← List.drop_eq_getElem_cons hlt, ← List.drop_drop, List.take_append_drop]

/-- Thirty-two digits are found in a text exactly if it has them in five groups. -/
theorem ungroup?_eq_some {digits : List Char} :
    ungroup? text = some digits ↔ text = group digits ∧ digits.length = 32 := by
  constructor
  · intro h
    unfold ungroup? at h
    split at h
    · rename_i hshape
      obtain ⟨hlength, hfirst, hsecond, hthird, hfourth⟩ := hshape
      obtain rfl := Option.some.inj h
      refine ⟨?_, by simp [hlength]⟩
      -- From the end on, each group is put back between its hyphens.
      rw [group_append _ _ (by simp [hlength]) (by simp [hlength]) (by simp [hlength])
        (by simp [hlength]), ← drop_eq_append 19 4 hfourth, ← drop_eq_append 14 4 hthird,
        ← drop_eq_append 9 4 hsecond]
      exact drop_eq_append 0 8 hfirst
    · cases h
  · rintro ⟨rfl, hdigits⟩
    exact ungroup?_group hdigits

theorem ungroup?_map_toLower (text : List Char) :
    ungroup? (text.map Char.toLower) = (ungroup? text).map (List.map Char.toLower) := by
  have hmark : ∀ index : Nat,
      (text.map Char.toLower)[index]? = some '-' ↔ text[index]? = some '-' := fun index => by
    rw [List.getElem?_map, Option.map_eq_some_iff]
    simp [toLower_eq_iff (show Char.isAlpha '-' = false by decide)]
  unfold ungroup?
  simp only [List.length_map, hmark]
  split <;> simp [List.map_take, List.map_drop]

theorem ofHyphenated?_eq_some :
    ofHyphenated? text = some uuid ↔ text.map Char.toLower = uuid.toChars := by
  rw [ofHyphenated?, Option.bind_eq_some_iff, toChars]
  constructor
  · rintro ⟨digits, hdigits, huuid⟩
    rw [(ungroup?_eq_some.1 hdigits).1, map_group (by decide), ofDigits?_eq_some.1 huuid]
  · intro h
    -- The hyphens of the spelling are in the text as well, for they have no letter case.
    have hlower := ungroup?_map_toLower text
    rw [h, ungroup?_group (length_hexDigits _ _), eq_comm, Option.map_eq_some_iff] at hlower
    obtain ⟨digits, hdigits, huuid⟩ := hlower
    exact ⟨digits, hdigits, ofDigits?_eq_some.2 huuid⟩

/-! ### The four spellings -/

/-- The four spellings of a UUID, in lowercase letters. -/
def spellings (uuid : Uuid) : List (List Char) :=
  [hexDigits 32 uuid.bits.toNat, uuid.toChars, '\x7b' :: (uuid.toChars ++ ['\x7d']),
    "urn:uuid:".toList ++ uuid.toChars]

/-- Whether a text spells a UUID, in any letter case. -/
def Spells (text : String) (uuid : Uuid) : Prop :=
  text.toList.map Char.toLower ∈ uuid.spellings

instance (text : String) (uuid : Uuid) : Decidable (Spells text uuid) :=
  inferInstanceAs (Decidable (_ ∈ _))

/-- Whether a text spells a UUID, with digits in any letter case but no capital letter before
them. -/
def SpellsPlainly (text : String) (uuid : Uuid) : Prop :=
  Spells text uuid ∧ (text.toList.length = 45 → "urn:uuid:".toList <+: text.toList)

instance (text : String) (uuid : Uuid) : Decidable (SpellsPlainly text uuid) :=
  inferInstanceAs (Decidable (_ ∧ _))

theorem length_toChars (uuid : Uuid) : uuid.toChars.length = 36 :=
  length_group (length_hexDigits _ _)

/-- The length of a text tells which of the spellings it can be. -/
theorem Spells.length_mem {text : String} (h : Spells text uuid) :
    text.toList.length ∈ [32, 36, 38, 45] := by
  have hlengths : uuid.spellings.map List.length = [32, 36, 38, 45] := by
    simp [spellings, length_toChars]
  have hmem : text.toList.map Char.toLower ∈ uuid.spellings := h
  rw [← hlengths, ← List.length_map Char.toLower]
  exact List.mem_map_of_mem hmem

/-- A text has braces around a spelling exactly if it is the spelling with braces. -/
theorem braced_iff :
    ((text.head? = some '\x7b' ∧ text.getLast? = some '\x7d') ∧
        ofHyphenated? (text.drop 1).dropLast = some uuid) ↔
      text.map Char.toLower = '\x7b' :: (uuid.toChars ++ ['\x7d']) := by
  rw [ofHyphenated?_eq_some]
  constructor
  · rintro ⟨⟨hhead, hlast⟩, hinner⟩
    obtain ⟨others, rfl⟩ := List.head?_eq_some_iff.1 hhead
    rcases List.eq_nil_or_concat' others with rfl | ⟨inner, last, rfl⟩
    · -- A brace alone has nothing inside.
      have hempty := congrArg List.length hinner
      rw [length_toChars] at hempty
      cases hempty
    · rw [← List.cons_append, List.getLast?_concat, Option.some.injEq] at hlast
      subst hlast
      rw [List.drop_one, List.tail_cons, List.dropLast_concat] at hinner
      rw [List.map_cons, List.map_append, hinner]
      rfl
  · intro h
    obtain ⟨first, others, rfl, hfirst, hothers⟩ := List.map_eq_cons_iff.1 h
    obtain ⟨inner, behind, rfl, hinner, hbehind⟩ := List.map_eq_append_iff.1 hothers
    obtain ⟨last, rfl, hlast⟩ := List.map_eq_singleton_iff.1 hbehind
    rw [toLower_eq_iff (by decide)] at hfirst hlast
    subst hfirst hlast
    refine ⟨⟨rfl, ?_⟩, ?_⟩
    · rw [← List.cons_append, List.getLast?_concat]
    · rwa [List.drop_one, List.tail_cons, List.dropLast_concat]

theorem urn_iff :
    ((text.take 9).map Char.toLower = "urn:uuid:".toList ∧
        ofHyphenated? (text.drop 9) = some uuid) ↔
      text.map Char.toLower = "urn:uuid:".toList ++ uuid.toChars := by
  rw [ofHyphenated?_eq_some]
  constructor
  · rintro ⟨hfront, hback⟩
    rw [← hfront, ← hback, ← List.map_append, List.take_append_drop]
  · intro h
    obtain ⟨front, back, rfl, hfront, hback⟩ := List.map_eq_append_iff.1 h
    have hlength : front.length = 9 := by simpa using congrArg List.length hfront
    rw [← hlength, List.take_left, List.drop_left]
    exact ⟨hfront, hback⟩

/-- What is tried depends on the length of a text, and nothing succeeds at another length. -/
theorem tried_eq_some {length : Nat} {bare hyphenated braced urn : Option Uuid}
    (hbare : bare = some uuid → length = 32) (hhyphenated : hyphenated = some uuid → length = 36)
    (hbraced : braced = some uuid → length = 38) (hurn : urn = some uuid → length = 45) :
    (if length = 32 then bare else if length = 36 then hyphenated
      else if length = 38 then braced else if length = 45 then urn else none) = some uuid ↔
      bare = some uuid ∨ hyphenated = some uuid ∨ braced = some uuid ∨ urn = some uuid := by
  grind

/-- A text is read as a UUID exactly if it spells the UUID. -/
theorem parse?_eq_some {text : String} : parse? text = some uuid ↔ Spells text uuid := by
  have hlength : ∀ {spelling : List Char}, text.toList.map Char.toLower = spelling →
      text.toList.length = spelling.length := fun h => by rw [← h, List.length_map]
  have hgroups := length_toChars uuid
  rw [parse?, ofChars?, tried_eq_some, ofDigits?_eq_some, ofHyphenated?_eq_some,
    Option.ite_none_right_eq_some, Option.ite_none_right_eq_some, braced_iff, urn_iff]
  · simp [Spells, spellings]
  · exact fun h => (hlength (ofDigits?_eq_some.1 h)).trans (length_hexDigits 32 _)
  · exact fun h => (hlength (ofHyphenated?_eq_some.1 h)).trans hgroups
  · rw [Option.ite_none_right_eq_some, braced_iff]
    exact fun h => (hlength h).trans (by simp [hgroups])
  · rw [Option.ite_none_right_eq_some, urn_iff]
    exact fun h => (hlength h).trans (by simp [hgroups])

/-- A text that is as long as none of the spellings spells no UUID. -/
theorem not_spells {text : String} (h : text.toList.length ∉ [32, 36, 38, 45]) (uuid : Uuid) :
    ¬ Spells text uuid := fun hspells => h hspells.length_mem

/-- The hyphenated spelling is read back. -/
theorem ofHyphenated?_toChars (uuid : Uuid) : ofHyphenated? uuid.toChars = some uuid := by
  have hdigits : (hexDigits 32 uuid.bits.toNat).length = 32 := length_hexDigits _ _
  have hbits : uuid.bits.toNat % 16 ^ 32 = uuid.bits.toNat := Nat.mod_eq_of_lt uuid.bits.isLt
  rw [ofHyphenated?, toChars, ungroup?_group hdigits, Option.bind_some, ofDigits?, if_pos hdigits,
    hexValue?_hexDigits, hbits, Option.map_some, BitVec.ofNat_toNat, BitVec.setWidth_eq]

/-- The spelling that is written has no capital letters. -/
theorem spellsPlainly_render (uuid : Uuid) : SpellsPlainly uuid.render uuid := by
  have hlist : uuid.render.toList = uuid.toChars := String.toList_ofList
  have hlower : uuid.toChars.map Char.toLower = uuid.toChars :=
    ofHyphenated?_eq_some.1 uuid.ofHyphenated?_toChars
  refine ⟨?_, fun hlength => ?_⟩
  · simp [Spells, spellings, hlist, hlower]
  · rw [hlist, length_toChars] at hlength
    cases hlength

end Uuid

/-! ### Formats -/

/-- What is relied on of a format of UUIDs: the hyphenated spelling is written in lowercase letters,
and each of the four spellings is read, and no other text.  Letter case does not matter in digits;
whether capital letters are accepted before them is not said. -/
structure UuidFormat.Documented (format : UuidFormat) : Prop where
  write_eq : ∀ uuid, format.write uuid = uuid.render
  reads : ∀ {text uuid}, Uuid.SpellsPlainly text uuid → format.read? text = some uuid
  spells : ∀ {text uuid}, format.read? text = some uuid → Uuid.Spells text uuid

namespace UuidFormat

theorem standard_documented : standard.Documented where
  write_eq _ := rfl
  reads h := Uuid.parse?_eq_some.2 h.1
  spells := Uuid.parse?_eq_some.1

variable {format : UuidFormat}

/-- What a format writes is read again. -/
theorem Documented.read?_write (h : format.Documented) (uuid : Uuid) :
    format.read? (format.write uuid) = some uuid := by
  rw [h.write_eq]
  exact h.reads uuid.spellsPlainly_render

/-- A text that spells no UUID is not read. -/
theorem Documented.read?_eq_none (h : format.Documented) {text : String}
    (hnone : ∀ uuid, ¬ Uuid.Spells text uuid) : format.read? text = none :=
  Option.eq_none_iff_forall_ne_some.2 fun uuid huuid => hnone uuid (h.spells huuid)

end UuidFormat

namespace Uuid

theorem parse?_render (uuid : Uuid) : parse? uuid.render = some uuid :=
  parse?_eq_some.2 uuid.spellsPlainly_render.1

theorem parse?_eq_none {text : String} (h : text.toList.length ∉ [32, 36, 38, 45]) :
    parse? text = none :=
  UuidFormat.standard_documented.read?_eq_none (not_spells h)

end Uuid

end DiskLayout
