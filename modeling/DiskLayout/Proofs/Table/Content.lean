import DiskLayout.Proofs.Table.Nodes

/-!
# The content of a partition

The content of a partition is its payload, or what lies directly in the encrypted container that
the payload is.  A change of the content keeps that container.

## Main results

* `Partition.content?_eq_some` — the two ways in which a partition has a content
* `Partition.mapContent_of_payload`, `Partition.mapContent_of_luks` — the change of a content
* `Partition.mountpoints_mapContent` — what is mounted after a change
* `Partition.all_content`, `Partition.all_replace` — a property of all nodes, before and after
* `modify_split` — a list with one item changed
-/

namespace DiskLayout

/-- A list with one item changed has the items before and after it where they were. -/
theorem modify_length {α : Type} (before after : List α) (item : α) (change : α → α) :
    (before ++ item :: after).modify before.length change = before ++ change item :: after := by
  induction before with
  | nil => rfl
  | cons first others ih =>
    rw [List.cons_append, List.length_cons, List.modify_succ_cons, ih, List.cons_append]

theorem modify_split {α : Type} {items : List α} {index : Nat} (h : index < items.length) :
    ∃ before item after, items = before ++ item :: after ∧ before.length = index ∧
      items[index]? = some item ∧
        ∀ change : α → α, items.modify index change = before ++ change item :: after := by
  refine ⟨items.take index, items[index], items.drop (index + 1), ?_, ?_, ?_, fun change => ?_⟩
  · rw [List.getElem_cons_drop, List.take_append_drop]
  · exact List.length_take_of_le (Nat.le_of_lt h)
  · exact List.getElem?_eq_getElem h
  · exact List.modify_eq_take_cons_drop h

namespace Payload

/-- Whether a payload is an encrypted container. -/
def isLuks : Payload → Bool
  | luks _ => true
  | _ => false

theorem content_of_not_isLuks {payload : Payload} (h : payload.isLuks = false) :
    payload.content = payload := by
  cases payload with
  | luks container => cases h
  | _ => rfl

theorem mapContent_of_not_isLuks {payload : Payload} (h : payload.isLuks = false)
    (change : Payload → Payload) : payload.mapContent change = change payload := by
  cases payload with
  | luks container => cases h
  | _ => rfl

@[simp] theorem mountpoints_content (payload : Payload) :
    payload.content.mountpoints = payload.mountpoints := by
  cases payload with
  | luks container => exact (mountpoints_luks container).symm
  | _ => rfl

@[simp] theorem mountpoints_mapContent (payload : Payload) (change : Payload → Payload) :
    (payload.mapContent change).mountpoints = (change payload.content).mountpoints := by
  cases payload with
  | luks container => exact mountpoints_luks _
  | _ => rfl

end Payload

namespace Partition

variable {partition : Partition} {inner : Payload}

/-- The content of a partition is a payload that is no encrypted container, or what lies directly
in one. -/
theorem content?_eq_some :
    partition.content? = some inner ↔
      (partition.payload = some inner ∧ inner.isLuks = false) ∨
        ∃ container, partition.payload = some (.luks container) ∧ container.payload = inner := by
  unfold content?
  cases hpayload : partition.payload with
  | none => simp
  | some payload =>
    cases payload with
    | luks container =>
      simp only [Option.map_some, Payload.content, Option.some.injEq, Payload.luks.injEq,
        exists_eq_left']
      constructor
      · exact Or.inr
      · rintro (⟨rfl, hluks⟩ | h)
        · cases hluks
        · exact h
    | _ =>
      simp only [Option.map_some, Payload.content, Option.some.injEq, reduceCtorEq, false_and,
        exists_false, or_false]
      constructor
      · rintro rfl
        exact ⟨rfl, rfl⟩
      · exact And.left

theorem mapContent_of_payload (h : partition.payload = some inner) (hluks : inner.isLuks = false)
    (change : Payload → Payload) :
    partition.mapContent change = { partition with payload := some (change inner) } := by
  unfold mapContent
  rw [h, Option.map_some, Payload.mapContent_of_not_isLuks hluks]

theorem mapContent_of_luks {container : Luks} (h : partition.payload = some (.luks container))
    (change : Payload → Payload) :
    partition.mapContent change = { partition with
      payload := some (.luks { container with payload := change container.payload }) } := by
  unfold mapContent
  rw [h]
  rfl

/-- Only what becomes of the content matters to a change of it. -/
theorem mapContent_congr (h : partition.content? = some inner) {change other : Payload → Payload}
    (hsame : change inner = other inner) :
    partition.mapContent change = partition.mapContent other := by
  rcases content?_eq_some.1 h with ⟨hpayload, hluks⟩ | ⟨container, hpayload, rfl⟩
  · rw [mapContent_of_payload hpayload hluks, mapContent_of_payload hpayload hluks, hsame]
  · rw [mapContent_of_luks hpayload, mapContent_of_luks hpayload, hsame]

theorem mapContent_eq_self {change : Payload → Payload}
    (h : ∀ inner, partition.content? = some inner → change inner = inner) :
    partition.mapContent change = partition := by
  obtain ⟨size, kind, uuid, bootable, payload⟩ := partition
  cases payload with
  | none => rfl
  | some payload =>
    have hcontent := h payload.content rfl
    cases payload with
    | luks container =>
      -- The structures of payloads have no definitional eta, so the container is taken apart.
      obtain ⟨id, label, cipher, inner⟩ := container
      exact congrArg (fun payload => Partition.mk size kind uuid bootable
        (some (.luks ⟨id, label, cipher, payload⟩))) hcontent
    | _ =>
      exact congrArg (fun payload => Partition.mk size kind uuid bootable (some payload)) hcontent

theorem mountpoints_of_content? (h : partition.content? = some inner) :
    partition.mountpoints = inner.mountpoints := by
  unfold content? at h
  obtain ⟨payload, hpayload, rfl⟩ := Option.map_eq_some_iff.1 h
  simp [mountpoints, hpayload]

/-- What is mounted in a partition after a change of its content. -/
theorem mountpoints_mapContent (h : partition.content? = some inner)
    (change : Payload → Payload) :
    (partition.mapContent change).mountpoints = (change inner).mountpoints := by
  unfold content? at h
  obtain ⟨payload, hpayload, rfl⟩ := Option.map_eq_some_iff.1 h
  simp [mountpoints, mapContent, hpayload]

theorem content?_mapContent (h : partition.content? = some inner) {change : Payload → Payload}
    (hluks : (change inner).isLuks = false) :
    (partition.mapContent change).content? = some (change inner) := by
  rcases content?_eq_some.1 h with ⟨hpayload, hinner⟩ | ⟨container, hpayload, rfl⟩
  · rw [mapContent_of_payload hpayload hinner]
    exact congrArg some (Payload.content_of_not_isLuks hluks)
  · rw [mapContent_of_luks hpayload]
    rfl

/-- A payload put in place of the content is the new content. -/
theorem content?_replace (h : partition.content? = some inner) {new : Payload}
    (hluks : new.isLuks = false) : (partition.mapContent fun _ => new).content? = some new :=
  content?_mapContent h hluks

/-- A relation of payloads that passes to the encrypted containers around them relates a payload to
the one with its content replaced. -/
theorem rel_mapContent {related : Payload → Payload → Prop}
    (hluks : ∀ (container : Luks) (new : Payload), related container.payload new →
      related (.luks container) (.luks { container with payload := new }))
    (h : partition.content? = some inner) {new : Payload} (hnew : related inner new) :
    Option.Rel related partition.payload (partition.mapContent fun _ => new).payload := by
  rcases content?_eq_some.1 h with ⟨hpayload, hinner⟩ | ⟨container, hpayload, rfl⟩
  · rw [mapContent_of_payload hpayload hinner, hpayload]
    exact .some hnew
  · rw [mapContent_of_luks hpayload, hpayload]
    exact .some (hluks container new hnew)

/-- What holds of all nodes of a payload holds of all nodes of the content. -/
theorem all_content {property : Node → Prop}
    (h : ∀ payload, partition.payload = some payload → payload.All property)
    (hcontent : partition.content? = some inner) : inner.All property := by
  rcases content?_eq_some.1 hcontent with ⟨hpayload, -⟩ | ⟨container, hpayload, rfl⟩
  · exact h inner hpayload
  · exact (Payload.all_luks.1 (h _ hpayload)).2

/-- What holds of all nodes of a new content, and of the encrypted container around it, holds of all
nodes of the payload. -/
theorem all_replace {property : Node → Prop} (hcontent : partition.content? = some inner)
    {new : Payload}
    (hluks : ∀ container, partition.payload = some (.luks container) →
      property (.luks { container with payload := new }))
    (hnew : new.All property) :
    ∀ payload, (partition.mapContent fun _ => new).payload = some payload →
      payload.All property := by
  rcases content?_eq_some.1 hcontent with ⟨hpayload, hinner⟩ | ⟨container, hpayload, rfl⟩
  · rw [mapContent_of_payload hpayload hinner]
    rintro _ ⟨⟩
    exact hnew
  · rw [mapContent_of_luks hpayload]
    rintro _ ⟨⟩
    exact Payload.all_luks.2 ⟨hluks container hpayload, hnew⟩

theorem holdsVolumeGroup_iff :
    partition.holdsVolumeGroup = true ↔
      ∃ group, partition.content? = some (.volumeGroup group) := by
  unfold holdsVolumeGroup
  split <;> simp_all

theorem holdsBtrfs_iff :
    partition.holdsBtrfs = true ↔ ∃ volume, partition.content? = some (.btrfs volume) := by
  unfold holdsBtrfs
  split <;> simp_all

end Partition

end DiskLayout
