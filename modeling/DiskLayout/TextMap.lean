/-!
# Maps keyed by texts

A finite map from texts, kept as a list of entries in strictly ascending order of their keys.
The order is that of the code points, and it is the order in which documents show the entries.

## Main definitions

* `TextMap` — a map
* `TextMap.get?`, `TextMap.insert`, `TextMap.ofList` — look-up and construction

## Main results

* `TextMap.get?_insert` — what a map holds after an insertion
* `TextMap.exists_get?_ofList` — what the map of a list of entries holds at their keys
* `TextMap.mem_keys`, `TextMap.mem_keys_insert`, `TextMap.nodup_keys` — the keys of a map
-/

namespace DiskLayout

/-- Entries in strictly ascending order of their keys. -/
def Ascending {α : Type} (entries : List (String × α)) : Prop :=
  entries.Pairwise fun first second => first.1 < second.1

/-- A finite map from texts. -/
structure TextMap (α : Type) where
  entries : List (String × α)
  ascending : Ascending entries

namespace TextMap

variable {α : Type}

/-- The map without entries. -/
def empty : TextMap α := ⟨[], List.Pairwise.nil⟩

/-- Puts an entry where its key belongs, in place of an entry with the same key. -/
def insertEntry (key : String) (value : α) : List (String × α) → List (String × α)
  | [] => [(key, value)]
  | entry :: others =>
    if key < entry.1 then (key, value) :: entry :: others
    else if entry.1 < key then entry :: insertEntry key value others
    else (key, value) :: others

theorem mem_insertEntry {key : String} {value : α} {entries : List (String × α)}
    {entry : String × α} (h : entry ∈ insertEntry key value entries) :
    entry = (key, value) ∨ entry ∈ entries := by
  induction entries with
  | nil => simpa [insertEntry] using h
  | cons first others ih =>
    unfold insertEntry at h
    split at h
    · simpa using h
    · split at h
      · rcases List.mem_cons.1 h with rfl | h
        · simp
        · rcases ih h with h | h <;> simp [h]
      · rcases List.mem_cons.1 h with rfl | h <;> simp_all

theorem eq_of_not_lt {first second : String} (h : ¬ first < second) (h' : ¬ second < first) :
    first = second :=
  String.le_antisymm h' h

theorem ascending_insertEntry {key : String} {value : α} {entries : List (String × α)}
    (h : Ascending entries) : Ascending (insertEntry key value entries) := by
  induction entries with
  | nil => simp [insertEntry, Ascending]
  | cons first others ih =>
    obtain ⟨hfirst, hothers⟩ := List.pairwise_cons.1 h
    unfold insertEntry
    split
    · rename_i hlt
      refine List.pairwise_cons.2 ⟨fun entry hentry => ?_, h⟩
      rcases List.mem_cons.1 hentry with rfl | hentry
      · exact hlt
      · exact String.lt_trans hlt (hfirst entry hentry)
    · split
      · rename_i hlt
        refine List.pairwise_cons.2 ⟨fun entry hentry => ?_, ih hothers⟩
        rcases mem_insertEntry hentry with rfl | hentry
        · exact hlt
        · exact hfirst entry hentry
      · rename_i hnot hnot'
        have hkey : key = first.1 := eq_of_not_lt hnot hnot'
        subst hkey
        exact List.pairwise_cons.2 ⟨hfirst, hothers⟩

/-- A map with an entry added; an entry with the same key gives way. -/
def insert (map : TextMap α) (key : String) (value : α) : TextMap α :=
  ⟨insertEntry key value map.entries, ascending_insertEntry map.ascending⟩

/-- The map of a list of entries; of entries with the same key the last counts. -/
def ofList (entries : List (String × α)) : TextMap α :=
  entries.foldl (fun map entry => map.insert entry.1 entry.2) empty

/-- The value that a list of entries has first at a key. -/
def lookup (key : String) : List (String × α) → Option α
  | [] => none
  | entry :: others => if entry.1 = key then some entry.2 else lookup key others

/-- The value at a key. -/
def get? (map : TextMap α) (key : String) : Option α := lookup key map.entries

/-- The keys of a map in ascending order. -/
def keys (map : TextMap α) : List String := map.entries.map Prod.fst

theorem lookup_eq_none_iff {key : String} {entries : List (String × α)} :
    lookup key entries = none ↔ key ∉ entries.map Prod.fst := by
  induction entries with
  | nil => simp [lookup]
  | cons entry others ih =>
    rw [lookup, List.map_cons, List.mem_cons, not_or]
    by_cases hkey : entry.1 = key
    · simp [hkey]
    · rw [if_neg hkey, ih]
      exact ⟨fun h => ⟨Ne.symm hkey, h⟩, And.right⟩

/-- The keys of a map are those at which it holds a value. -/
theorem mem_keys {map : TextMap α} {key : String} :
    key ∈ map.keys ↔ ∃ value, map.get? key = some value := by
  rw [← Option.ne_none_iff_exists']
  exact Decidable.not_iff_not.1 (by simp [get?, keys, lookup_eq_none_iff])

/-- A map has no key twice. -/
theorem nodup_keys (map : TextMap α) : map.keys.Nodup :=
  List.pairwise_map.2 (List.Pairwise.imp (fun hlt heq => String.ne_of_lt hlt heq) map.ascending)

theorem lookup_insertEntry (key other : String) (value : α) (entries : List (String × α))
    (h : Ascending entries) :
    lookup other (insertEntry key value entries) =
      if key = other then some value else lookup other entries := by
  induction entries with
  | nil => simp [insertEntry, lookup]
  | cons first others ih =>
    obtain ⟨_, hothers⟩ := List.pairwise_cons.1 h
    unfold insertEntry
    split
    · rw [lookup]
    · split
      · rename_i _ hlt
        have hne : first.1 ≠ key := fun heq => String.lt_irrefl key (heq ▸ hlt)
        rw [lookup, ih hothers, lookup]
        by_cases hfirst : first.1 = other
        · have : key ≠ other := fun heq => hne (hfirst.trans heq.symm)
          simp [hfirst, this]
        · simp [hfirst]
      · rename_i hnot hnot'
        have hkey : key = first.1 := eq_of_not_lt hnot hnot'
        subst hkey
        rw [lookup, lookup]
        by_cases hfirst : first.1 = other <;> simp [hfirst]

/-- A map after an insertion holds the new value at its key and else what it held before. -/
theorem get?_insert (map : TextMap α) (key other : String) (value : α) :
    (map.insert key value).get? other = if key = other then some value else map.get? other :=
  lookup_insertEntry key other value map.entries map.ascending

/-- An insertion adds its key to those of a map. -/
theorem mem_keys_insert {map : TextMap α} {key other : String} {value : α} :
    other ∈ (map.insert key value).keys ↔ other = key ∨ other ∈ map.keys := by
  rw [mem_keys, mem_keys, get?_insert]
  by_cases hkey : key = other
  · simp [hkey]
  · simp [hkey, Ne.symm hkey]

@[simp] theorem get?_empty (key : String) : (empty : TextMap α).get? key = none := rfl

/-- After insertions in a row a map holds at a key the value of one of them, or, if none of them is
for that key, what it held before. -/
theorem get?_foldl_insert (entries : List (String × α)) (map : TextMap α) (key : String) :
    (∃ value, (key, value) ∈ entries ∧
        (entries.foldl (fun map entry => map.insert entry.1 entry.2) map).get? key = some value) ∨
      (key ∉ entries.map Prod.fst ∧
        (entries.foldl (fun map entry => map.insert entry.1 entry.2) map).get? key =
          map.get? key) := by
  induction entries generalizing map with
  | nil => exact .inr ⟨List.not_mem_nil, rfl⟩
  | cons entry others ih =>
    rcases ih (map.insert entry.1 entry.2) with ⟨value, hmem, hvalue⟩ | ⟨hnot, hvalue⟩
    · exact .inl ⟨value, List.mem_cons_of_mem _ hmem, hvalue⟩
    · rw [get?_insert] at hvalue
      by_cases hkey : entry.1 = key
      · subst hkey
        rw [if_pos rfl] at hvalue
        exact .inl ⟨entry.2, List.mem_cons_self, hvalue⟩
      · rw [if_neg hkey] at hvalue
        exact .inr ⟨by simp [hnot, Ne.symm hkey], hvalue⟩

/-- The map of a list of entries holds, at the key of an entry, the value of some entry with that
key. -/
theorem exists_get?_ofList {entries : List (String × α)} {key : String} {value : α}
    (h : (key, value) ∈ entries) :
    ∃ found, (key, found) ∈ entries ∧ (ofList entries).get? key = some found :=
  (get?_foldl_insert entries empty key).resolve_right fun hnot =>
    hnot.1 (List.mem_map_of_mem h)

end TextMap

end DiskLayout
