/-!
# Sizes and alignment

Every size in a disk layout is a number of bytes.  This file fixes the units, the rounding used
when devices are cut into sectors, grains and extents, and the sizes that the layout rules name.

Sizes are kept in fields of 64 bits, but computed with as numbers, which do not overflow.  A program
that computes with words gets the same sizes as long as they are below `Size.limit`.  Where a sum or
a size rounded up is not, it stops or goes on with what is left of the number, and what is said here
of the exact size is not said of the program.

## Main definitions

* `alignUp`, `alignDown` — the nearest multiple of an alignment above and below a size
* `Size.total` — the sum of sizes
* `Size.kibibyte` … `Size.terabyte` — binary and decimal units
* `Size.limit` — the first size that no longer fits a 64-bit field
* `Size.sector` … `Size.defaultRoot` — the sizes that layout rules refer to
-/

namespace DiskLayout

/-- The least multiple of `alignment` that is at least `value`.  An alignment of zero leaves the
value as it is.  The multiple may be `Size.limit` or more even if the value is not. -/
def alignUp (value alignment : Nat) : Nat :=
  if alignment = 0 ∨ value % alignment = 0 then value else (value / alignment + 1) * alignment

/-- The greatest multiple of `alignment` that is at most `value`.  An alignment of zero leaves the
value as it is. -/
def alignDown (value alignment : Nat) : Nat :=
  if alignment = 0 then value else value - value % alignment

theorem le_alignUp (value alignment : Nat) : value ≤ alignUp value alignment := by
  unfold alignUp
  split
  · exact Nat.le_refl value
  · rename_i h
    have hpos : 0 < alignment := Nat.pos_of_ne_zero fun h0 => h (Or.inl h0)
    have hdiv := Nat.div_add_mod value alignment
    have hmod := Nat.mod_lt value hpos
    have : (value / alignment + 1) * alignment = alignment * (value / alignment) + alignment := by
      rw [Nat.add_mul, Nat.one_mul, Nat.mul_comm]
    omega

theorem alignUp_mod (value : Nat) {alignment : Nat} (h : alignment ≠ 0) :
    alignUp value alignment % alignment = 0 := by
  unfold alignUp
  split
  · rename_i hcase
    exact hcase.resolve_left h
  · exact Nat.mul_mod_left _ _

theorem alignDown_le (value alignment : Nat) : alignDown value alignment ≤ value := by
  unfold alignDown
  split
  · exact Nat.le_refl value
  · exact Nat.sub_le _ _

namespace Size

/-- The sum of sizes.  The zero is given by name because the instance that is found depends on what
of algebra is imported. -/
abbrev total (sizes : List Nat) : Nat := @List.sum Nat _ ⟨0⟩ sizes

/-- A kibibyte, 2^10 bytes. -/
def kibibyte : Nat := 1024

/-- A mebibyte, 2^20 bytes. -/
def mebibyte : Nat := 1048576

/-- A gibibyte, 2^30 bytes. -/
def gibibyte : Nat := 1073741824

/-- A tebibyte, 2^40 bytes. -/
def tebibyte : Nat := 1099511627776

/-- A kilobyte, 10^3 bytes. -/
def kilobyte : Nat := 1000

/-- A megabyte, 10^6 bytes. -/
def megabyte : Nat := 1000000

/-- A gigabyte, 10^9 bytes. -/
def gigabyte : Nat := 1000000000

/-- A terabyte, 10^12 bytes. -/
def terabyte : Nat := 1000000000000

/-- The number of different sizes a 64-bit field can hold. -/
def limit : Nat := 18446744073709551616

/-- The logical sector: partition sizes are whole sectors. -/
def sector : Nat := 512

/-- The partition grain: allocated partitions start on its multiples. -/
def partitionGrain : Nat := mebibyte

/-- The space before the first partition, which holds the partition table. -/
def header : Nat := mebibyte

/-- The space after the last partition, which holds the backup partition table. -/
def footer : Nat := mebibyte

/-- The physical extent of a volume group: logical volumes are whole extents. -/
def extent : Nat := 4 * mebibyte

/-- The metadata area at the start of a physical volume. -/
def volumeGroupMetadata : Nat := mebibyte

/-- The header of an encrypted container. -/
def luksHeader : Nat := 16 * mebibyte

/-- The smallest btrfs volume. -/
def leastBtrfs : Nat := 256 * mebibyte

/-- The smallest xfs filesystem. -/
def leastXfs : Nat := 300 * mebibyte

/-- The smallest ext4 filesystem. -/
def leastExt4 : Nat := 16 * mebibyte

/-- The size of an added BIOS boot partition. -/
def biosBoot : Nat := mebibyte

/-- The size of an added EFI system partition. -/
def espPartition : Nat := 200 * mebibyte

/-- The size of an added `/boot` partition. -/
def bootPartition : Nat := 1024 * mebibyte

/-- The size of an added root filesystem that nothing else dictates. -/
def defaultRoot : Nat := 2 * 1024 * mebibyte

end Size

end DiskLayout
