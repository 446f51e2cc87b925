import DiskLayout.Allocation.Build
import DiskLayout.Proofs.Path.Containment
import DiskLayout.Proofs.Size.Alignment
import Mathlib.Data.List.Induction
import Mathlib.Data.List.Sort

/-!
# What minimum sizes cover

The minimum of a mountpoint covers what is requested for it, and it covers the sum of what the
directories need that it holds.  A directory is held by the longest mountpoint that contains it;
there is only one, for all that contain a directory are prefixes of the same path.

## Main definitions

* `IsHolder` — the longest mountpoint that contains a directory
* `chargedTo` — what the directories need together that a mountpoint holds

## Main results

* `IsHolder.unique`, `exists_isHolder` — one mountpoint holds a directory that any contains
* `holder?_eq_some_iff` — the holder that is found is the longest mountpoint
* `Minimums.requested_le_ofTable`, `Minimums.chargedTo_le_ofTable` — what minimums cover
-/

namespace DiskLayout

/-! ### The entries of maps -/

namespace TextMap

variable {α : Type}

theorem mem_entries_iff {map : TextMap α} {key : String} {value : α} :
    (key, value) ∈ map.entries ↔ map.get? key = some value := by
  obtain ⟨entries, hascending⟩ := map
  change _ ↔ lookup key entries = some value
  induction entries with
  | nil => simp [lookup]
  | cons entry others ih =>
    obtain ⟨hfirst, hothers⟩ := List.pairwise_cons.1 hascending
    rw [lookup, List.mem_cons]
    by_cases hkey : entry.1 = key
    · -- Every later key is greater, so the first entry is the only one for this key.
      have hnot : (key, value) ∉ others := by
        intro hmem
        have hlt := hfirst (key, value) hmem
        rw [hkey] at hlt
        exact String.lt_irrefl key hlt
      rw [if_pos hkey, Option.some.injEq, or_iff_left hnot, Prod.ext_iff]
      simp [hkey, eq_comm]
    · rw [if_neg hkey, ← ih hothers, or_iff_right]
      exact fun heq => hkey (congrArg Prod.fst heq).symm

/-- A map is determined by what it holds at each key. -/
theorem eq_of_get?_eq {map other : TextMap α} (h : ∀ key, map.get? key = other.get? key) :
    map = other := by
  have hmem : ∀ entry, entry ∈ map.entries ↔ entry ∈ other.entries := fun entry => by
    rw [mem_entries_iff, mem_entries_iff, h]
  have hentries : map.entries = other.entries :=
    map.ascending.eq_of_mem_iff other.ascending hmem
  cases map
  cases other
  cases hentries
  rfl

end TextMap

/-! ### Holders of directories -/

/-- Whether a mountpoint is the longest one that contains a directory. -/
def IsHolder (mountpoints : List String) (directory mountpoint : String) : Prop :=
  mountpoint ∈ mountpoints ∧ Path.hasBase directory mountpoint = true ∧
    ∀ other ∈ mountpoints, Path.hasBase directory other = true →
      other.utf8ByteSize ≤ mountpoint.utf8ByteSize

instance (mountpoints : List String) (directory mountpoint : String) :
    Decidable (IsHolder mountpoints directory mountpoint) :=
  inferInstanceAs (Decidable (_ ∧ _ ∧ _))

/-- What the directories need together that a mountpoint holds. -/
def chargedTo (mountpoints : List String) (required : TextMap Nat) (mountpoint : String) : Nat :=
  ((required.entries.filter fun entry =>
    IsHolder mountpoints entry.1 mountpoint).map Prod.snd).sum

theorem foldl_longerPath_ne_none {paths : List String} {earlier : Option String}
    (h : earlier ≠ none ∨ paths ≠ []) : paths.foldl longerPath earlier ≠ none := by
  induction paths generalizing earlier with
  | nil => simpa using h
  | cons path others ih =>
    refine ih (.inl ?_)
    unfold longerPath
    split
    · simp
    · split <;> simp

/-- The longest path is one of those seen, and no other is longer. -/
theorem foldl_longerPath_eq_some {paths : List String} {earlier : Option String} {longest : String}
    (h : paths.foldl longerPath earlier = some longest) :
    (longest ∈ paths ∨ earlier = some longest) ∧
      (∀ path ∈ paths, path.utf8ByteSize ≤ longest.utf8ByteSize) ∧
        ∀ other, earlier = some other → other.utf8ByteSize ≤ longest.utf8ByteSize := by
  induction paths generalizing earlier with
  | nil =>
    refine ⟨.inr h, by simp, fun other hother => ?_⟩
    obtain rfl := Option.some.inj (hother.symm.trans h)
    exact Nat.le_refl _
  | cons path others ih =>
    obtain ⟨hfrom, hothers, hearlier⟩ := ih h
    unfold longerPath at hfrom hearlier
    cases earlier with
    | none => grind
    | some other =>
      by_cases hle : other.utf8ByteSize ≤ path.utf8ByteSize
      · simp only [hle, if_true] at hfrom hearlier
        grind
      · simp only [hle, if_false] at hfrom hearlier
        grind

/-- Only one mountpoint holds a directory, for all that contain it are prefixes of the same path. -/
theorem IsHolder.unique {mountpoints : List String} {directory mountpoint other : String}
    (h : IsHolder mountpoints directory mountpoint) (h' : IsHolder mountpoints directory other) :
    mountpoint = other := by
  obtain ⟨hmem, hbase, hlongest⟩ := h
  obtain ⟨hmem', hbase', hlongest'⟩ := h'
  exact Path.eq_of_hasBase hbase hbase'
    (Nat.le_antisymm (hlongest' mountpoint hmem hbase) (hlongest other hmem' hbase'))

theorem isHolder_of_holder? {mountpoints : List String} {directory mountpoint : String}
    (h : holder? mountpoints directory = some mountpoint) :
    IsHolder mountpoints directory mountpoint := by
  obtain ⟨hmem, hlongest, -⟩ := foldl_longerPath_eq_some h
  obtain ⟨hmem, hbase⟩ := List.mem_filter.1 (hmem.resolve_right (by simp))
  exact ⟨hmem, hbase, fun other hother hcontains =>
    hlongest other (List.mem_filter.2 ⟨hother, hcontains⟩)⟩

/-- Some mountpoint holds a directory if any contains it. -/
theorem exists_isHolder {mountpoints : List String} {directory mountpoint : String}
    (hmem : mountpoint ∈ mountpoints) (hbase : Path.hasBase directory mountpoint = true) :
    ∃ holder, holder? mountpoints directory = some holder ∧
      IsHolder mountpoints directory holder := by
  have hsome : holder? mountpoints directory ≠ none := by
    refine foldl_longerPath_ne_none (.inr ?_)
    exact List.ne_nil_of_mem (List.mem_filter.2 ⟨hmem, hbase⟩)
  obtain ⟨holder, hholder⟩ := Option.ne_none_iff_exists'.1 hsome
  exact ⟨holder, hholder, isHolder_of_holder? hholder⟩

/-- The holder that is found for a directory is the longest mountpoint that contains it. -/
theorem holder?_eq_some_iff {mountpoints : List String} {directory mountpoint : String} :
    holder? mountpoints directory = some mountpoint ↔
      IsHolder mountpoints directory mountpoint := by
  refine ⟨isHolder_of_holder?, fun h => ?_⟩
  obtain ⟨found, hfound, hholder⟩ := exists_isHolder h.1 h.2.1
  rw [hfound, hholder.unique h]

/-- The holder of a directory depends on the mountpoints alone, not on their order. -/
theorem holder?_congr {mountpoints others : List String}
    (h : ∀ mountpoint, mountpoint ∈ mountpoints ↔ mountpoint ∈ others) (directory : String) :
    holder? mountpoints directory = holder? others directory := by
  refine Option.ext fun mountpoint => ?_
  rw [holder?_eq_some_iff, holder?_eq_some_iff]
  simp only [IsHolder, h]

/-! ### Charges -/

namespace Minimums

/-- A further directory adds its size to the charge of the mountpoint that holds it, and to no
other. -/
theorem get?_charges_concat {size : Type} [Add size] [OfNat size 0] (mountpoints : List String)
    (required : List (String × size)) (entry : String × size) (mountpoint : String) :
    (charges mountpoints (required ++ [entry])).get? mountpoint =
      if IsHolder mountpoints entry.1 mountpoint then
        some (((charges mountpoints required).get? mountpoint).getD 0 + entry.2)
      else (charges mountpoints required).get? mountpoint := by
  rw [charges, List.foldl_append, List.foldl_cons, List.foldl_nil, ← charges]
  cases hholder : holder? mountpoints entry.1 with
  | none =>
    have hnot : ¬ IsHolder mountpoints entry.1 mountpoint := by
      rw [← holder?_eq_some_iff, hholder]
      simp
    rw [if_neg hnot]
  | some holder =>
    have hholds : IsHolder mountpoints entry.1 mountpoint ↔ holder = mountpoint := by
      rw [← holder?_eq_some_iff, hholder, Option.some.injEq]
    dsimp only
    rw [TextMap.get?_insert]
    by_cases hsame : holder = mountpoint
    · rw [if_pos hsame, if_pos (hholds.2 hsame), hsame]
    · rw [if_neg hsame, if_neg (mt hholds.1 hsame)]

/-- The charge to a mountpoint is what the directories need together that it holds. -/
theorem getD_charges (mountpoints : List String) (required : List (String × Nat))
    (mountpoint : String) :
    ((charges mountpoints required).get? mountpoint).getD 0 =
      ((required.filter fun entry =>
        IsHolder mountpoints entry.1 mountpoint).map Prod.snd).sum := by
  -- Sizes are charged in the order of the directories, so the last one is taken off.
  induction required using List.reverseRecOn with
  | nil => rfl
  | append_singleton front entry ih =>
    rw [get?_charges_concat, List.filter_append, List.map_append, List.sum_append, ← ih]
    by_cases hholds : IsHolder mountpoints entry.1 mountpoint
    · simp [hholds]
    · simp [hholds]

/-! ### Raised minimums -/

theorem getD_raise (minimums : Minimums) (mountpoint other : String) (size : Nat) :
    ((minimums.raise mountpoint size).get? other).getD 0 =
      if mountpoint = other then max ((minimums.get? other).getD 0) size
      else (minimums.get? other).getD 0 := by
  unfold raise
  rw [TextMap.get?_insert]
  by_cases hsame : mountpoint = other
  · simp [hsame]
  · simp [hsame]

section Raise

variable {α : Type} (key : α → String) (size : α → Nat)

theorem le_foldl_raise (items : List α) (minimums : Minimums) (mountpoint : String) :
    (minimums.get? mountpoint).getD 0 ≤
      ((items.foldl (fun minimums item => minimums.raise (key item) (size item)) minimums).get?
        mountpoint).getD 0 := by
  induction items generalizing minimums with
  | nil => exact Nat.le_refl _
  | cons item others ih =>
    refine Nat.le_trans ?_ (ih _)
    rw [getD_raise]
    split
    · exact Nat.le_max_left _ _
    · exact Nat.le_refl _

/-- Minimums that are raised in a row end up at least as large as each size. -/
theorem size_le_foldl_raise {items : List α} {item : α} (hmem : item ∈ items)
    (minimums : Minimums) :
    size item ≤
      ((items.foldl (fun minimums item => minimums.raise (key item) (size item)) minimums).get?
        (key item)).getD 0 := by
  induction items generalizing minimums with
  | nil => cases hmem
  | cons first others ih =>
    rcases List.mem_cons.1 hmem with rfl | hmem
    · refine Nat.le_trans ?_ (le_foldl_raise key size others _ _)
      rw [getD_raise, if_pos rfl]
      exact Nat.le_max_right _ _
    · exact ih hmem _

/-- A minimum stays zero exactly if it was and is raised to nothing. -/
theorem getD_foldl_raise_eq_zero_iff {items : List α} {minimums : Minimums} {mountpoint : String} :
    ((items.foldl (fun minimums item => minimums.raise (key item) (size item)) minimums).get?
        mountpoint).getD 0 = 0 ↔
      (minimums.get? mountpoint).getD 0 = 0 ∧
        ∀ item ∈ items, key item = mountpoint → size item = 0 := by
  induction items generalizing minimums with
  | nil => simp
  | cons item others ih =>
    rw [List.foldl_cons, ih, getD_raise, List.forall_mem_cons]
    by_cases hkey : key item = mountpoint
    · rw [if_pos hkey, Nat.max_eq_zero_iff]
      simp [hkey, and_assoc]
    · simp [hkey]

end Raise

/-- It does not matter which of two minimums is raised first. -/
theorem raise_comm (minimums : Minimums) (first second : String) (size other : Nat) :
    (minimums.raise first size).raise second other =
      (minimums.raise second other).raise first size := by
  refine TextMap.eq_of_get?_eq fun key => ?_
  simp only [raise, TextMap.get?_insert]
  by_cases hsame : first = second
  · subst hsame
    by_cases hkey : first = key
    · simp [hkey, Nat.max_assoc, Nat.max_comm size other]
    · simp [hkey]
  · by_cases hfirst : first = key
    · subst hfirst
      simp [Ne.symm hsame]
    · simp [hfirst, hsame]

variable {table : PartitionTable} {requests : List FilesystemRequest}
  {required : Option (TextMap Nat)}

/-- The minimum of a mountpoint covers every request for it. -/
theorem requested_le_ofTable {request : FilesystemRequest} (hmem : request ∈ requests) :
    request.minSize ≤ ((ofTable table requests required).get? request.mountpoint).getD 0 :=
  Nat.le_trans
    (size_le_foldl_raise FilesystemRequest.mountpoint FilesystemRequest.minSize hmem _)
    (le_foldl_raise Prod.fst Prod.snd _ _ _)

/-- The minimum of a mountpoint covers what the directories need together that it holds. -/
theorem chargedTo_le_ofTable (mountpoint : String) :
    chargedTo table.mountpoints (required.getD defaultRequiredSizes) mountpoint ≤
      ((ofTable table requests required).get? mountpoint).getD 0 := by
  unfold chargedTo
  rw [← getD_charges]
  cases hcharge : (charges table.mountpoints (required.getD defaultRequiredSizes).entries).get?
      mountpoint with
  | none => exact Nat.zero_le _
  | some sum => exact size_le_foldl_raise Prod.fst Prod.snd (TextMap.mem_entries_iff.2 hcharge) _

/-- A mountpoint has no minimum exactly if no request for it has one, and the directories that it
holds need nothing. -/
theorem getD_ofTable_eq_zero_iff {mountpoint : String} :
    ((ofTable table requests required).get? mountpoint).getD 0 = 0 ↔
      (∀ request ∈ requests, request.mountpoint = mountpoint → request.minSize = 0) ∧
        chargedTo table.mountpoints (required.getD defaultRequiredSizes) mountpoint = 0 := by
  have hasked : ((ofRequests requests).get? mountpoint).getD 0 = 0 ↔
      ∀ request ∈ requests, request.mountpoint = mountpoint → request.minSize = 0 := by
    refine (getD_foldl_raise_eq_zero_iff FilesystemRequest.mountpoint
      FilesystemRequest.minSize).trans (and_iff_right ?_)
    rw [TextMap.get?_empty, Option.getD_none]
  rw [ofTable, charge, getD_foldl_raise_eq_zero_iff Prod.fst Prod.snd, hasked, chargedTo,
    ← getD_charges]
  refine and_congr_right fun _ => ?_
  -- There is at most one charge to the mountpoint.
  constructor
  · intro h
    cases hcharge : (charges table.mountpoints (required.getD defaultRequiredSizes).entries).get?
        mountpoint with
    | none => rfl
    | some sum => exact h _ (TextMap.mem_entries_iff.2 hcharge) rfl
  · rintro h ⟨_, sum⟩ hmem rfl
    rwa [TextMap.mem_entries_iff.1 hmem, Option.getD_some] at h

/-- What is charged to a mountpoint does not depend on the order of the mountpoints. -/
theorem chargedTo_congr {mountpoints others : List String}
    (h : ∀ mountpoint, mountpoint ∈ mountpoints ↔ mountpoint ∈ others) (required : TextMap Nat)
    (mountpoint : String) :
    chargedTo mountpoints required mountpoint = chargedTo others required mountpoint := by
  have hholds : ∀ entry ∈ required.entries, decide (IsHolder mountpoints entry.1 mountpoint) =
      decide (IsHolder others entry.1 mountpoint) := fun entry _ =>
    decide_eq_decide.2 (by simp only [IsHolder, h])
  rw [chargedTo, chargedTo, List.filter_congr hholds]

/-- Minimums depend neither on the order of requests nor on that of mountpoints. -/
theorem ofTable_perm {other : PartitionTable} {others : List FilesystemRequest}
    (hrequests : requests.Perm others)
    (hmountpoints : ∀ mountpoint, mountpoint ∈ table.mountpoints ↔
      mountpoint ∈ other.mountpoints) :
    ofTable table requests required = ofTable other others required := by
  have hheld : holder? table.mountpoints = holder? other.mountpoints :=
    funext fun directory => holder?_congr hmountpoints directory
  have hasked : ofRequests requests = ofRequests others :=
    hrequests.foldl_eq' (fun _ _ _ _ minimums => raise_comm minimums _ _ _ _) _
  unfold ofTable charge charges
  rw [hheld, hasked]

end Minimums

end DiskLayout
