import DiskLayout.Proofs.Customization.Partitioning
import DiskLayout.Proofs.Path.Canonical
import DiskLayout.Proofs.Table.Naming

/-!
# Generated names that a volume manager accepts

A logical volume without a name is named after its mountpoint: underscores take the place of
separators, and every other character stays.  A volume manager takes few characters in a name, and
a mountpoint may have any.  The names that are given are checked and those that are generated are
not, so a mountpoint decides whether its volume has a name that the check would let pass.

## Main results

* `LvmName.isValid_iff` — the names that a volume manager takes
* `VolumeGroup.isValid_candidate_iff` — the candidates for a mountpoint are all valid or none is
* `VolumeGroup.generateName_valid_iff` — the mountpoints whose generated names are valid
-/

namespace DiskLayout

/-! ### Valid names -/

namespace LvmName

/-- A name is valid if it has a first character, which is no hyphen, all its characters are taken,
and it does not stand for a directory. -/
theorem isValid_iff {name : String} :
    isValid name = true ↔ ∃ first others, name.toList = first :: others ∧
      first ≠ '-' ∧ (∀ c ∈ first :: others, isInner c = true) ∧ name ≠ "." ∧ name ≠ ".." := by
  unfold isValid
  cases name.toList with
  | nil => simp
  | cons first others =>
    simp only [Bool.and_eq_true, bne_iff_ne, List.all_eq_true, List.cons.injEq,
      List.forall_mem_cons]
    constructor
    · rintro ⟨⟨⟨⟨hinner, hhyphen⟩, hothers⟩, hdot⟩, hdots⟩
      exact ⟨first, others, ⟨rfl, rfl⟩, hhyphen, ⟨hinner, hothers⟩, hdot, hdots⟩
    · rintro ⟨_, _, ⟨rfl, rfl⟩, hhyphen, ⟨hinner, hothers⟩, hdot, hdots⟩
      exact ⟨⟨⟨⟨hinner, hhyphen⟩, hothers⟩, hdot⟩, hdots⟩

theorem isInner_of_isDigit {c : Char} (h : c.isDigit = true) : isInner c = true := by
  simp [isInner, Char.isAlphanum, h]

/-- A name with two letters in it, and digits behind them, does not stand for a directory.  So it is
valid if the characters before the letters are taken and the first of them is no hyphen. -/
theorem isValid_append_iff {name : String} {chars digits : List Char}
    (hname : name.toList = chars ++ 'l' :: 'v' :: digits)
    (hdigits : ∀ c ∈ digits, c.isDigit = true) :
    isValid name = true ↔ (∀ c ∈ chars, isInner c = true) ∧ ¬ ['-'] <+: chars := by
  have hletter : 'l' ∈ name.toList := by simp [hname]
  have hdot : name ≠ "." ∧ name ≠ ".." := by
    constructor <;> (rintro rfl; revert hletter; decide)
  have htail : ∀ c ∈ 'l' :: 'v' :: digits, isInner c = true := by
    simp only [List.forall_mem_cons]
    exact ⟨by decide, by decide, fun c hc => isInner_of_isDigit (hdigits c hc)⟩
  rw [isValid_iff, hname]
  cases chars with
  | nil => simpa [hdot] using htail
  | cons first others =>
    have hall : (∀ c ∈ first :: others ++ 'l' :: 'v' :: digits, isInner c = true) ↔
        ∀ c ∈ first :: others, isInner c = true := by
      rw [List.forall_mem_append, and_iff_left htail]
    have hhyphen : ['-'] <+: first :: others ↔ first = '-' := by
      rw [List.cons_prefix_cons, and_iff_left List.nil_prefix, eq_comm]
    rw [hhyphen, ← hall]
    constructor
    · rintro ⟨_, _, hsplit, hfirst, hinner, -, -⟩
      obtain ⟨rfl, rfl⟩ := List.cons.inj hsplit
      exact ⟨hinner, hfirst⟩
    · rintro ⟨hinner, hfirst⟩
      exact ⟨first, _, rfl, hfirst, hinner, hdot⟩

end LvmName

/-! ### Names after mountpoints -/

namespace VolumeGroup

/-- The stem of a mountpoint below the root: the path without its first separator, with underscores
in place of the others. -/
theorem stem_eq {mountpoint : String} {first : Char} {rest : List Char}
    (hpath : mountpoint.toList = '/' :: first :: rest) (hfirst : first ≠ '/') :
    (stem mountpoint).toList = first :: rest.map fun c => if c = '/' then '_' else c := by
  have hroot : mountpoint ≠ Path.root := by
    rintro rfl
    cases hpath
  rw [stem, if_neg hroot, hpath, String.toList_ofList]
  simp [hfirst]

/-- A volume manager takes the underscore that a separator becomes, and of the other characters
those that it takes anyway. -/
theorem isInner_underscored {c : Char} :
    LvmName.isInner (if c = '/' then '_' else c) = true ↔ c = '/' ∨ LvmName.isInner c = true := by
  by_cases hc : c = '/'
  · simp only [hc, if_true, true_or, iff_true]
    decide
  · simp [hc]

/-- The candidates for a mountpoint are valid names exactly if the path has, beside separators, only
characters that a volume manager takes, and no hyphen right behind the first separator. -/
theorem isValid_candidate_iff {mountpoint name : String}
    (hmountpoint : checkMountpoint mountpoint = .ok ()) (hname : name ∈ candidates mountpoint) :
    LvmName.isValid name = true ↔
      (∀ c ∈ mountpoint.toList, c = '/' ∨ LvmName.isInner c = true) ∧
        ¬ ['/', '-'] <+: mountpoint.toList := by
  obtain ⟨digits, hdigits, hchars⟩ := exists_digits_of_mem_candidates hname
  rw [candidateBase, String.toList_append, List.append_assoc] at hchars
  rw [LvmName.isValid_append_iff hchars hdigits]
  by_cases hroot : mountpoint = Path.root
  · subst hroot
    refine iff_of_true ⟨List.all_eq_true.1 (by decide), by decide⟩ ⟨fun c hc => ?_, by decide⟩
    exact .inl (List.mem_singleton.1 hc)
  · obtain ⟨first, rest, hpath, hfirst⟩ := exists_tail_of_checkMountpoint hmountpoint hroot
    -- The first character of the stem is the one behind the first separator.
    rw [stem_eq hpath hfirst, hpath]
    simp [hfirst, isInner_underscored]

/-- The name that is generated for a mountpoint is one that the check of given names lets pass
exactly if the path has, beside separators, only characters that a volume manager takes, and no
hyphen right behind the first separator. -/
theorem generateName_valid_iff {group : VolumeGroup} {mountpoint name : String}
    (hmountpoint : checkMountpoint mountpoint = .ok ())
    (hname : group.generateName mountpoint = .ok name) :
    LvmName.violation? name = none ↔
      (∀ c ∈ mountpoint.toList, c = '/' ∨ LvmName.isInner c = true) ∧
        ¬ ['/', '-'] <+: mountpoint.toList := by
  have hcandidate := mem_of_freeName? (generateName_eq_ok.1 hname)
  rw [LvmName.violation?_eq_none, or_iff_right (ne_empty_of_mem_candidates hcandidate)]
  exact isValid_candidate_iff hmountpoint hcandidate

theorem generateName_valid_iff_varLog :
    let group : VolumeGroup := ⟨"vg", "", [⟨"var_loglv", 0, none⟩]⟩
    group.generateName "/var/log" = .ok "var_loglv00" ∧
      LvmName.violation? "var_loglv00" = none := by
  intro group
  have hname : group.generateName "/var/log" = .ok "var_loglv00" := rfl
  have hchars : "/var/log".toList.all (fun c => c == '/' || LvmName.isInner c) = true := by decide
  refine ⟨hname, (generateName_valid_iff (by decide) hname).2 ⟨fun c hc => ?_, by decide⟩⟩
  simpa using List.all_eq_true.1 hchars c hc

/-- A mountpoint with a blank in it is valid, and the name that is generated for it is not. -/
theorem generateName_not_valid_blank :
    checkMountpoint "/my data" = .ok () ∧
      (VolumeGroup.mk "vg" "" []).generateName "/my data" = .ok "my datalv" ∧
      LvmName.violation? "my datalv" = some "invalid lvm name \"my datalv\"" :=
  ⟨by decide, rfl, by decide⟩

end VolumeGroup

end DiskLayout
