import DiskLayout.Document.Decode
import DiskLayout.Proofs.Outcome
import DiskLayout.Proofs.Table.Resemblance
import Mathlib.Data.List.Perm.Basic

/-!
# What shows a value

A value may be read with the entries of its mappings in another order, and after it was kept.  A
source that shows a value lets the same scalars, items and entries be read, and each item and entry
shows its part of the value and is nested less deeply.  What reads every source that shows a value
alike need not know where it comes from.

## Main definitions

* `Arranges` — an order of the entries of every mapping whose keys are distinct
* `Source.Shows` — a source is a value in some order, possibly kept
* `Source.Presents` — entries that were read show the entries of a value

## Main results

* `Value.arranges_sorted` — sorting the keys of a value is an order of its entries
* `Source.Shows.items?`, `Source.Shows.entries?` — the parts of what is shown
* `Source.Shows.presents` — the entries of what is shown, by their keys
-/

namespace DiskLayout

/-! ### Orders of entries -/

namespace TextMap

variable {α : Type}

theorem perm_insertEntry {key : String} {value : α} {entries : List (String × α)}
    (h : key ∉ entries.map Prod.fst) :
    (insertEntry key value entries).Perm ((key, value) :: entries) := by
  induction entries with
  | nil => exact List.Perm.refl _
  | cons first others ih =>
    rw [List.map_cons, List.mem_cons, not_or] at h
    unfold insertEntry
    split
    · exact List.Perm.refl _
    · rename_i hnot
      have hlt : first.1 < key := by
        by_contra hnot'
        exact h.1 (eq_of_not_lt hnot hnot')
      rw [if_pos hlt]
      exact ((ih h.2).cons first).trans (List.Perm.swap _ _ _)

/-- Entries whose keys are distinct are those of their map, in another order. -/
theorem ofList_perm {entries : List (String × α)} (h : (entries.map Prod.fst).Nodup) :
    (ofList entries).entries.Perm entries := by
  have hfold : ∀ (entries : List (String × α)) (map : TextMap α),
      ((entries ++ map.entries).map Prod.fst).Nodup →
      (entries.foldl (fun map entry => map.insert entry.1 entry.2) map).entries.Perm
        (entries ++ map.entries) := by
    -- The map that is inserted into grows, so the induction is over the entries for every map.
    intro entries
    induction entries with
    | nil => intro map _; exact List.Perm.refl _
    | cons entry others ih =>
      intro map hdistinct
      rw [List.cons_append, List.map_cons, List.nodup_cons] at hdistinct
      have hinsert : (map.insert entry.1 entry.2).entries.Perm (entry :: map.entries) := by
        refine perm_insertEntry fun hmem => hdistinct.1 ?_
        rw [List.map_append]
        exact List.mem_append_right _ hmem
      have hperm : (others ++ (map.insert entry.1 entry.2).entries).Perm
          (entry :: (others ++ map.entries)) :=
        (hinsert.append_left others).trans List.perm_middle
      refine (ih _ ?_).trans hperm
      rw [(hperm.map Prod.fst).nodup_iff, List.map_cons, List.nodup_cons]
      exact hdistinct
  simpa [ofList, empty] using hfold entries empty (by simpa [empty] using h)

/-- The map of the entries of a map, in any order, is the map. -/
theorem ofList_of_perm {entries : List (String × α)} {map : TextMap α}
    (h : entries.Perm map.entries) : ofList entries = map := by
  have hdistinct : (entries.map Prod.fst).Nodup :=
    (h.map Prod.fst).nodup_iff.2 map.nodup_keys
  have hperm : (ofList entries).entries.Perm map.entries := (ofList_perm hdistinct).trans h
  have heq : (ofList entries).entries = map.entries :=
    hperm.eq_of_pairwise
      (fun first second _ _ hlt hgt => absurd (String.lt_trans hlt hgt) (String.lt_irrefl _))
      (ofList entries).ascending map.ascending
  cases hmap : ofList entries
  cases map
  rw [hmap] at heq
  cases heq
  rfl

end TextMap

namespace Value

theorem sortedItems_eq_map (items : List Value) : sortedItems items = items.map sorted := by
  induction items with
  | nil => rfl
  | cons item others ih => rw [sortedItems, List.map_cons, ih]

theorem sortedEntries_eq_map (entries : List (String × Value)) :
    sortedEntries entries = entries.map fun entry => (entry.1, entry.2.sorted) := by
  induction entries with
  | nil => rfl
  | cons entry others ih => rw [sortedEntries, List.map_cons, ih]

theorem keepItems_eq_map (items : List Value) : keepItems items = items.map keep := by
  induction items with
  | nil => rfl
  | cons item others ih => rw [keepItems, List.map_cons, ih]

theorem keepEntries_eq_map (entries : List (String × Value)) :
    keepEntries entries = entries.map fun entry => (.text entry.1, entry.2.keep) := by
  induction entries with
  | nil => rfl
  | cons entry others ih => rw [keepEntries, List.map_cons, ih]

/-! ### Depth -/

theorem depth_pos (value : Value) : 0 < value.depth := by
  cases value <;> simp [depth]

theorem depth_lt_sequence {item : Value} {items : List Value} (h : item ∈ items) :
    item.depth < (sequence items).depth := by
  have hle : item.depth ≤ depthOfItems items := by
    induction items with
    | nil => exact absurd h List.not_mem_nil
    | cons first others ih =>
      rw [depthOfItems]
      rcases List.mem_cons.1 h with rfl | h
      · exact Nat.le_max_left _ _
      · exact Nat.le_trans (ih h) (Nat.le_max_right _ _)
  rw [depth]
  exact Nat.lt_succ_of_le hle

theorem depth_lt_mapping {entry : String × Value} {entries : List (String × Value)}
    (h : entry ∈ entries) : entry.2.depth < (mapping entries).depth := by
  have hle : entry.2.depth ≤ depthOfEntries entries := by
    induction entries with
    | nil => exact absurd h List.not_mem_nil
    | cons first others ih =>
      rw [depthOfEntries]
      rcases List.mem_cons.1 h with rfl | h
      · exact Nat.le_max_left _ _
      · exact Nat.le_trans (ih h) (Nat.le_max_right _ _)
  rw [depth]
  exact Nat.lt_succ_of_le hle

mutual

/-- What is kept of a value is as deep as the value. -/
theorem depth_keep : (value : Value) → value.keep.depth = value.depth
  | null | bool _ | integer _ | decimal _ | text _ => rfl
  | sequence items => congrArg (· + 1) (depthOfItems_keepItems items)
  | mapping entries => congrArg (· + 1) (depthOfEntries_keepEntries entries)

theorem depthOfItems_keepItems :
    (items : List Value) → Kept.depthOfItems (keepItems items) = depthOfItems items
  | [] => rfl
  | item :: others => by
    rw [keepItems, Kept.depthOfItems, depthOfItems, depth_keep item, depthOfItems_keepItems others]

theorem depthOfEntries_keepEntries :
    (entries : List (String × Value)) →
      Kept.depthOfEntries (keepEntries entries) = depthOfEntries entries
  | [] => rfl
  | (key, value) :: others => by
    have hkey : max (Kept.text key).depth value.depth = value.depth :=
      Nat.max_eq_right (depth_pos value)
    rw [keepEntries, Kept.depthOfEntries, depthOfEntries, depth_keep value, hkey,
      depthOfEntries_keepEntries others]

end

/-- Whether a value has no parts. -/
def IsScalar : Value → Prop
  | sequence _ | mapping _ => False
  | _ => True

end Value

/-! ### Orders of the entries of a value -/

/-- What is a permutation of a mapped list is itself a mapped list. -/
theorem exists_of_perm_map {α β : Type} {f : α → β} {items : List β} {olds : List α}
    (h : items.Perm (olds.map f)) : ∃ news : List α, items = news.map f ∧ news.Perm olds := by
  have hcomp : Relation.Comp (· = List.map f ·) List.Perm items olds = items.Perm (olds.map f) :=
    congrFun₂ (List.eq_map_comp_perm f) items olds
  exact hcomp.mpr h

/-- An order of the entries of every mapping whose keys are distinct, at every depth. -/
structure Arranges (arrange : Value → Value) : Prop where
  scalar : ∀ value : Value, value.IsScalar → arrange value = value
  null : ∀ value : Value, arrange value = .null → value = .null
  sequence : ∀ items, arrange (.sequence items) = .sequence (items.map arrange)
  mapping : ∀ entries : List (String × Value), (entries.map Prod.fst).Nodup →
    ∃ others : List (String × Value), others.Perm entries ∧
      arrange (.mapping entries) = .mapping (others.map fun entry => (entry.1, arrange entry.2))

/-- The order in which the entries are written. -/
theorem arranges_id : Arranges id where
  scalar _ _ := rfl
  null _ h := h
  sequence items := by rw [List.map_id]; rfl
  mapping entries _ := ⟨entries, List.Perm.refl _, by simp⟩

/-- The order of the keys. -/
theorem Value.arranges_sorted : Arranges sorted where
  scalar value h := by
    cases value with
    | sequence _ | mapping _ => exact h.elim
    | _ => rfl
  null value h := by
    cases value with
    | sequence _ | mapping _ => simp [sorted] at h
    | _ => exact h
  sequence items := by rw [sorted, sortedItems_eq_map]
  mapping entries h := by
    rw [sorted, sortedEntries_eq_map]
    let sort : String × Value → String × Value := fun entry => (entry.1, entry.2.sorted)
    have hperm : (TextMap.ofList (entries.map sort)).entries.Perm (entries.map sort) :=
      TextMap.ofList_perm (by simpa [sort, Function.comp_def] using h)
    obtain ⟨others, heq, hothers⟩ := exists_of_perm_map hperm
    exact ⟨others, hothers, congrArg mapping heq⟩

/-! ### What shows a value -/

namespace Source

variable {source : Source} {value : Value} {bound : Nat}

/-- Whether a source is a value with its entries in some order, possibly kept. -/
def Shows (source : Source) (value : Value) : Prop :=
  ∃ arrange, Arranges arrange ∧
    (source = .value (arrange value) ∨ source = .kept (arrange value).keep)

/-- A value shows itself. -/
theorem shows_value (value : Value) : (Source.value value).Shows value :=
  ⟨id, arranges_id, .inl rfl⟩

/-- A value shows itself with its keys sorted. -/
theorem shows_sorted (value : Value) : (Source.value value.sorted).Shows value :=
  ⟨Value.sorted, Value.arranges_sorted, .inl rfl⟩

theorem depth_pos_of_shows (h : source.Shows value) : 0 < source.depth := by
  obtain ⟨arrange, -, rfl | rfl⟩ := h
  · exact Value.depth_pos _
  · rw [depth, Value.depth_keep]
    exact Value.depth_pos _

namespace Shows

theorem scalar_cases (h : source.Shows value) (hscalar : value.IsScalar) :
    source = .value value ∨ source = .kept value.keep := by
  obtain ⟨arrange, harrange, h⟩ := h
  rwa [harrange.scalar value hscalar] at h

theorem text? {text : String} (h : source.Shows (.text text)) : source.text? = some text := by
  rcases h.scalar_cases trivial with rfl | rfl <;> rfl

theorem bool? {truth : Bool} (h : source.Shows (.bool truth)) : source.bool? = some truth := by
  rcases h.scalar_cases trivial with rfl | rfl <;> rfl

theorem natural? {number : Nat} (h : source.Shows (.number number)) :
    source.natural? = some number := by
  rcases h.scalar_cases trivial with rfl | rfl <;> rfl

theorem scalar? (h : source.Shows value) (hscalar : value.IsScalar) :
    source.scalar? = some value := by
  rcases h.scalar_cases hscalar with rfl | rfl
  · rfl
  · cases value with
    | sequence _ | mapping _ => exact hscalar.elim
    | _ => rfl

theorem case? {name : String} (h : source.Shows (.text name)) :
    source.case? = some (.name name, none) := by
  rcases h.scalar_cases trivial with rfl | rfl <;> rfl

theorem isTaggedCase (h : source.Shows value) : source.isTaggedCase = false := by
  obtain ⟨arrange, -, rfl | rfl⟩ := h <;> rfl

/-- What shows something else than nothing is present. -/
theorem isPresent? (h : source.Shows value) (hvalue : value ≠ .null) :
    source.isPresent? = some true := by
  obtain ⟨arrange, harrange, h⟩ := h
  have hne : arrange value ≠ .null := fun hnull => hvalue (harrange.null value hnull)
  rcases h with rfl | rfl
  · revert hne
    cases arrange value with
    | null => exact fun hne => absurd rfl hne
    | _ => exact fun _ => rfl
  · revert hne
    cases arrange value with
    | null => exact fun hne => absurd rfl hne
    | _ => exact fun _ => rfl

/-- What shows a sequence has items, and each of them shows its part. -/
theorem items? {items : List Value} (h : source.Shows (.sequence items)) :
    ∃ sources, source.items? = some sources ∧
      List.Forall₂ (fun (part : Source) item => part.Shows item ∧ part.depth < source.depth)
        sources items := by
  obtain ⟨arrange, harrange, h⟩ := h
  rw [harrange.sequence] at h
  have hlt : ∀ item ∈ items,
      (arrange item).depth < (Value.sequence (items.map arrange)).depth := fun item hitem =>
    Value.depth_lt_sequence (List.mem_map_of_mem hitem)
  rcases h with rfl | rfl
  · refine ⟨_, rfl, ?_⟩
    rw [List.map_map, List.forall₂_map_left_iff]
    exact List.forall₂_same.2 fun item hitem =>
      ⟨⟨arrange, harrange, .inl rfl⟩, hlt item hitem⟩
  · rw [Value.keep, Value.keepItems_eq_map]
    refine ⟨_, rfl, ?_⟩
    rw [List.map_map, List.map_map, List.forall₂_map_left_iff]
    refine List.forall₂_same.2 fun item hitem => ⟨⟨arrange, harrange, .inr rfl⟩, ?_⟩
    have hitems : Kept.sequence (items.map (Value.keep ∘ arrange)) =
        (Value.sequence (items.map arrange)).keep := by
      rw [Value.keep, Value.keepItems_eq_map, List.map_map]
    rw [hitems]
    simpa [depth, Value.depth_keep] using hlt item hitem

theorem entries?_keep (entries : List (String × Value)) :
    (Source.kept (Value.mapping entries).keep).entries? =
      some (entries.map fun entry => (entry.1, .kept entry.2.keep)) := by
  rw [Value.keep, Value.keepEntries_eq_map]
  show List.mapM _ _ = _
  induction entries with
  | nil => rfl
  | cons entry others ih =>
    rw [List.map_cons, List.mapM_cons, ih]
    rfl

/-- What shows a mapping with distinct keys has entries, and each of them shows its part under the
same key. -/
theorem entries? {entries : List (String × Value)} (h : source.Shows (.mapping entries))
    (hdistinct : (entries.map Prod.fst).Nodup) :
    ∃ others sources, others.Perm entries ∧ source.entries? = some sources ∧
      List.Forall₂ (fun (part : String × Source) (entry : String × Value) =>
        part.1 = entry.1 ∧ part.2.Shows entry.2 ∧ part.2.depth < source.depth) sources others := by
  obtain ⟨arrange, harrange, h⟩ := h
  obtain ⟨others, hperm, heq⟩ := harrange.mapping entries hdistinct
  rw [heq] at h
  have hlt : ∀ entry ∈ others, (arrange entry.2).depth <
      (Value.mapping (others.map fun entry => (entry.1, arrange entry.2))).depth := by
    intro entry hentry
    have hmem : (entry.1, arrange entry.2) ∈ others.map fun entry => (entry.1, arrange entry.2) :=
      List.mem_map_of_mem hentry
    exact Value.depth_lt_mapping hmem
  refine ⟨others, ?_⟩
  rcases h with rfl | rfl
  · refine ⟨_, hperm, rfl, ?_⟩
    rw [List.map_map, List.forall₂_map_left_iff]
    exact List.forall₂_same.2 fun entry hentry =>
      ⟨rfl, ⟨arrange, harrange, .inl rfl⟩, hlt entry hentry⟩
  · refine ⟨_, hperm, entries?_keep _, ?_⟩
    rw [List.map_map, List.forall₂_map_left_iff]
    refine List.forall₂_same.2 fun entry hentry => ⟨rfl, ⟨arrange, harrange, .inr rfl⟩, ?_⟩
    simpa [depth, Value.depth_keep] using hlt entry hentry

/-- What is kept of a source that shows a value shows it too. -/
theorem keep? (h : source.Shows value) :
    ∃ kept, source.keep? = some kept ∧ (Source.kept kept).Shows value ∧
      (Source.kept kept).depth = source.depth := by
  obtain ⟨arrange, harrange, rfl | rfl⟩ := h
  · exact ⟨_, rfl, ⟨arrange, harrange, .inr rfl⟩, Value.depth_keep _⟩
  · exact ⟨_, rfl, ⟨arrange, harrange, .inr rfl⟩, rfl⟩

end Shows

/-- Entries that were read show the entries of a value, and there are no others. -/
structure Presents (bound : Nat) (sources : List (String × Source))
    (entries : List (String × Value)) : Prop where
  distinct : (sources.map Prod.fst).Nodup
  shown : ∀ entry ∈ entries, ∃ source, (entry.1, source) ∈ sources ∧ source.Shows entry.2 ∧
    source.depth ≤ bound
  named : ∀ part ∈ sources, part.1 ∈ entries.map Prod.fst

/-- The entries of what shows a mapping present the entries of the mapping. -/
theorem Shows.presents {entries : List (String × Value)} (h : source.Shows (.mapping entries))
    (hdistinct : (entries.map Prod.fst).Nodup) (hbound : source.depth ≤ bound) :
    ∃ sources, source.entries? = some sources ∧ Presents bound sources entries := by
  obtain ⟨others, sources, hperm, hsources, hshows⟩ := h.entries? hdistinct
  have hkeys : sources.map Prod.fst = others.map Prod.fst :=
    (map_eq_of_forall₂ (fun _ _ h => h.1.symm) hshows).symm
  refine ⟨sources, hsources, ?_, fun entry hentry => ?_, fun part hpart => ?_⟩
  · rw [hkeys]
    exact (hperm.map Prod.fst).nodup_iff.2 hdistinct
  · obtain ⟨part, hpart, hkey, hshow, hdepth⟩ :=
      exists_of_forall₂ hshows.flip (hperm.mem_iff.2 hentry)
    exact ⟨part.2, hkey ▸ hpart, hshow, by omega⟩
  · have hmem : part.1 ∈ others.map Prod.fst := hkeys ▸ List.mem_map_of_mem hpart
    exact (hperm.map Prod.fst).mem_iff.1 hmem

end Source

end DiskLayout
