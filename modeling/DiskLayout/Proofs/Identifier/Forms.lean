import DiskLayout.Identifier.VolumeId
import Mathlib.Data.List.Basic
import Mathlib.Tactic.Ring
import Mathlib.Tactic.Positivity

/-!
# The forms of identifiers

An identifier made from random bytes has a form that its kind prescribes.  A random UUID is marked
with its version and its variant, whatever the bytes are; the short identifiers are hexadecimal
digits in one letter case, in one group or in two.

## Main definitions

* `Uuid.byte` — a byte of an identifier, the most significant first
* `Uuid.IsRandom` — the marks of a random identifier
* `lowercaseDigits`, `capitalDigits` — the hexadecimal digits in either letter case

## Main results

* `Uuid.byte_ofBytes` — an identifier has the bytes that it is made of
* `Uuid.isRandom_ofRandomBytes` — an identifier made from random bytes carries the marks
-/

namespace DiskLayout

/-! ### Bytes of a UUID -/

/-- The number that bytes spell, most significant first. -/
def bigEndian (bytes : List UInt8) : Nat :=
  bytes.foldl (fun value byte => 256 * value + byte.toNat) 0

theorem foldl_bytes (bytes : List UInt8) (value : Nat) :
    bytes.foldl (fun value byte => 256 * value + byte.toNat) value =
      256 ^ bytes.length * value + bigEndian bytes := by
  unfold bigEndian
  induction bytes generalizing value with
  | nil => simp
  | cons byte others ih =>
    rw [List.foldl_cons, List.foldl_cons, ih, ih (256 * 0 + byte.toNat), List.length_cons]
    ring

theorem bigEndian_append (front back : List UInt8) :
    bigEndian (front ++ back) = 256 ^ back.length * bigEndian front + bigEndian back := by
  conv_lhs => rw [bigEndian, List.foldl_append]
  exact foldl_bytes back (bigEndian front)

theorem bigEndian_singleton (byte : UInt8) : bigEndian [byte] = byte.toNat := by
  simp [bigEndian]

theorem bigEndian_lt (bytes : List UInt8) : bigEndian bytes < 256 ^ bytes.length := by
  induction bytes using List.reverseRecOn with
  | nil => decide
  | append_singleton front byte ih =>
    have hbyte : byte.toNat < 256 := byte.toNat_lt
    rw [bigEndian_append, bigEndian_singleton, List.length_append, List.length_singleton, pow_succ]
    omega

/-- The byte at a position is found by dropping what lies behind it and then what lies before. -/
theorem bigEndian_div_mod (front back : List UInt8) (byte : UInt8) :
    bigEndian (front ++ byte :: back) / 256 ^ back.length % 256 = byte.toNat := by
  have hback := bigEndian_lt back
  have hbyte : byte.toNat < 256 := byte.toNat_lt
  have hsplit : bigEndian (front ++ byte :: back) =
      256 ^ back.length * (256 * bigEndian front + byte.toNat) + bigEndian back := by
    rw [List.append_cons, bigEndian_append, bigEndian_append, bigEndian_singleton]
    simp
  rw [hsplit, Nat.mul_add_div (by positivity), Nat.div_eq_of_lt hback]
  omega

namespace Uuid

/-- A byte of an identifier, the most significant first. -/
def byte (uuid : Uuid) (index : Fin 16) : Nat :=
  uuid.bits.toNat / 256 ^ (15 - index.val) % 256

/-- An identifier has the bytes that it is made of. -/
theorem byte_ofBytes (bytes : Vector UInt8 16) {index : Nat} (h : index < 16) :
    (ofBytes bytes).byte ⟨index, h⟩ = bytes[index].toNat := by
  have hlength : bytes.toList.length = 16 := Vector.length_toList
  have hvalue : (ofBytes bytes).bits.toNat = bigEndian bytes.toList := by
    have hlt := bigEndian_lt bytes.toList
    rw [hlength] at hlt
    exact Nat.mod_eq_of_lt hlt
  -- The bytes before the position, the byte and the bytes behind it are the whole list.
  have hsplit : bytes.toList =
      bytes.toList.take index ++ bytes[index] :: bytes.toList.drop (index + 1) := by
    have hindex : index < bytes.toList.length := by omega
    have hbyte : bytes[index] = bytes.toList[index] := by simp
    rw [hbyte, List.getElem_cons_drop, List.take_append_drop]
  have hbehind : (bytes.toList.drop (index + 1)).length = 15 - index := by
    rw [List.length_drop, hlength]
    omega
  rw [byte, hvalue, hsplit, ← hbehind, bigEndian_div_mod]

/-- The marks of a random identifier: version 4 in byte 6 and the variant in byte 8. -/
structure IsRandom (uuid : Uuid) : Prop where
  version : uuid.byte 6 / 16 = 4
  variant : uuid.byte 8 / 64 = 2

theorem marked_version (byte : UInt8) : (byte &&& 0x0F ||| 0x40).toNat / 16 = 4 := by
  have hall : ∀ bits : BitVec 8, (bits &&& 0x0F ||| 0x40).toNat / 16 = 4 := by decide
  exact hall byte.toBitVec

theorem marked_variant (byte : UInt8) : (byte &&& 0x3F ||| 0x80).toNat / 64 = 2 := by
  have hall : ∀ bits : BitVec 8, (bits &&& 0x3F ||| 0x80).toNat / 64 = 2 := by decide
  exact hall byte.toBitVec

/-- An identifier made from random bytes carries the marks, whatever the bytes are. -/
theorem isRandom_ofRandomBytes (bytes : Vector UInt8 16) : (ofRandomBytes bytes).IsRandom where
  version := by
    have hbyte : (ofRandomBytes bytes).byte 6 = _ := byte_ofBytes _ (show 6 < 16 by decide)
    rw [hbyte]
    simpa using marked_version bytes[6]
  variant := by
    have hbyte : (ofRandomBytes bytes).byte 8 = _ := byte_ofBytes _ (show 8 < 16 by decide)
    rw [hbyte]
    simpa using marked_variant bytes[8]

end Uuid

/-! ### Hexadecimal digits -/

/-- The hexadecimal digits in lowercase letters. -/
def lowercaseDigits : List Char := "0123456789abcdef".toList

/-- The hexadecimal digits in capital letters. -/
def capitalDigits : List Char := "0123456789ABCDEF".toList

@[simp] theorem length_hexDigits (count value : Nat) : (hexDigits count value).length = count := by
  induction count generalizing value with
  | zero => rfl
  | succ count ih => rw [hexDigits, List.length_append, ih, List.length_singleton]

theorem hexDigit_mem (value : Nat) : hexDigit value ∈ lowercaseDigits := by
  have hall : ∀ digit < 16, Nat.digitChar digit ∈ lowercaseDigits := by decide
  exact hall (value % 16) (Nat.mod_lt _ (by decide))

theorem mem_lowercaseDigits {count value : Nat} {digit : Char} (h : digit ∈ hexDigits count value) :
    digit ∈ lowercaseDigits := by
  induction count generalizing value with
  | zero => exact absurd h List.not_mem_nil
  | succ count ih =>
    rcases List.mem_append.1 h with hfront | hlast
    · exact ih hfront
    · exact List.mem_singleton.1 hlast ▸ hexDigit_mem value

theorem toUpper_mem_capitalDigits {digit : Char} (h : digit ∈ lowercaseDigits) :
    digit.toUpper ∈ capitalDigits := by
  have hall : lowercaseDigits.all (fun digit => digit.toUpper ∈ capitalDigits) = true := by decide
  exact of_decide_eq_true (List.all_eq_true.1 hall digit h)

namespace VolumeId

/-- A text of eight lowercase hexadecimal digits. -/
def IsDosDisk (id : VolumeId) : Prop :=
  ∃ digits : List Char, id = .verbatim (String.ofList digits) ∧ digits.length = 8 ∧
    ∀ digit ∈ digits, digit ∈ lowercaseDigits

/-- A text of four capital hexadecimal digits, a hyphen and four more. -/
def IsFatSerial (id : VolumeId) : Prop :=
  ∃ front back : List Char, id = .verbatim (String.ofList (front ++ '-' :: back)) ∧
    front.length = 4 ∧ back.length = 4 ∧ ∀ digit ∈ front ++ back, digit ∈ capitalDigits

theorem isDosDisk_dosDisk (bytes : Vector UInt8 16) : (dosDisk bytes).IsDosDisk := by
  refine ⟨_, rfl, by simp, fun digit hdigit => ?_⟩
  simp only [List.mem_append] at hdigit
  rcases hdigit with ((h | h) | h) | h
  all_goals exact mem_lowercaseDigits h

theorem isFatSerial_fatSerial (bytes : Vector UInt8 16) : (fatSerial bytes).IsFatSerial := by
  refine ⟨(hexDigits 2 bytes[0].toNat ++ hexDigits 2 bytes[1].toNat).map Char.toUpper,
    (hexDigits 2 bytes[2].toNat ++ hexDigits 2 bytes[3].toNat).map Char.toUpper, ?_, by simp,
    by simp, fun digit hdigit => ?_⟩
  · simp [fatSerial]
  · rw [← List.map_append, List.mem_map] at hdigit
    obtain ⟨lower, hlower, rfl⟩ := hdigit
    refine toUpper_mem_capitalDigits ?_
    simp only [List.mem_append] at hlower
    rcases hlower with (h | h) | h | h
    all_goals exact mem_lowercaseDigits h

end VolumeId

end DiskLayout
