import DiskLayout.Identifier.VolumeId
import DiskLayout.PartitionType
import DiskLayout.Proofs.Identifier.Spellings

/-!
# Written identifiers are read back

A UUID is read back from what a format writes of it.  A text that is kept as it is is read back as
long as it does not spell a UUID itself, and the GUID of a partition type as long as no well-known
type has it.  Whatever is read is of this form, and so are the identifiers that are made.

## Main definitions

* `VolumeId.IsNormal`, `PartitionType.IsNormal` — what is read back as it was written

## Main results

* `VolumeId.readIn_writeIn_readIn`, `PartitionType.parseIn?_renderIn` — what is written in a format
  is read in it
* `PartitionType.parseIn?_eq_some` — which texts are read as a partition type
* `VolumeId.ofText_toText`, `PartitionType.parse?_render` — what is normal is read back
* `VolumeId.isNormal_ofText`, `PartitionType.isNormal_of_parse?` — what is read is normal
-/

namespace DiskLayout

variable {format : UuidFormat}

/-! ### Volume identifiers -/

namespace VolumeId

/-- Whether an identifier is a UUID or a text that spells none. -/
def IsNormal : VolumeId → Prop
  | .uuid _ => True
  | .verbatim text => Uuid.parse? text = none

theorem readIn_of_some {text : String} {uuid : Uuid} (h : format.read? text = some uuid) :
    readIn format text = .uuid uuid := by
  rw [readIn, h]

theorem readIn_of_none {text : String} (h : format.read? text = none) :
    readIn format text = .verbatim text := by
  rw [readIn, h]

/-- What is read in a format is read again from what is written of it. -/
theorem readIn_writeIn_readIn (hformat : format.Documented) (text : String) :
    readIn format ((readIn format text).writeIn format) = readIn format text := by
  cases hread : format.read? text with
  | some uuid =>
    rw [readIn_of_some hread]
    exact readIn_of_some (hformat.read?_write uuid)
  | none =>
    rw [readIn_of_none hread]
    exact readIn_of_none hread

theorem ofText_toText {id : VolumeId} (h : id.IsNormal) : ofText id.toText = id := by
  cases id with
  | uuid uuid =>
    refine readIn_of_some ?_
    rw [UuidFormat.read?_standard]
    exact uuid.parse?_render
  | verbatim text =>
    refine readIn_of_none ?_
    rw [UuidFormat.read?_standard]
    exact h

theorem isNormal_ofText (text : String) : (ofText text).IsNormal := by
  unfold ofText
  cases hread : UuidFormat.standard.read? text with
  | none =>
    rw [readIn_of_none hread]
    rwa [UuidFormat.read?_standard] at hread
  | some uuid =>
    rw [readIn_of_some hread]
    trivial

theorem isNormal_random (bytes : Vector UInt8 16) : (random bytes).IsNormal := trivial

theorem IsFatSerial.isNormal {id : VolumeId} (h : id.IsFatSerial) : id.IsNormal := by
  obtain ⟨front, back, rfl, hfront, hback, -⟩ := h
  refine Uuid.parse?_eq_none ?_
  rw [String.toList_ofList, List.length_append, List.length_cons, hfront, hback]
  decide

theorem IsDosDisk.isNormal {id : VolumeId} (h : id.IsDosDisk) : id.IsNormal := by
  obtain ⟨digits, rfl, hdigits, -⟩ := h
  refine Uuid.parse?_eq_none ?_
  rw [String.toList_ofList, hdigits]
  decide

end VolumeId

/-! ### Partition types -/

namespace PartitionType

/-- Whether a type is well known or has the GUID of no well-known type. -/
def IsNormal : PartitionType → Prop
  | .other guid => ∀ type ∈ known, type.guid ≠ guid
  | _ => True

theorem isNormal_of_mem {type : PartitionType} (h : type ∈ known) : type.IsNormal := by
  cases type with
  | other guid => exact absurd h (by simp [known])
  | _ => trivial

/-- A type is well known or has no name. -/
theorem mem_known (type : PartitionType) : type ∈ known ∨ ∃ guid, type = .other guid := by
  cases type with
  | other guid => exact .inr ⟨guid, rfl⟩
  | _ => exact .inl (by decide)

theorem ofGuid_of_isNormal {guid : Uuid} (h : (PartitionType.other guid).IsNormal) :
    ofGuid guid = .other guid := by
  have hnone : known.find? (fun type => type.guid == guid) = none :=
    List.find?_eq_none.2 fun type htype => by simpa using h type htype
  rw [ofGuid, hnone]
  rfl

theorem isNormal_ofGuid (guid : Uuid) : (ofGuid guid).IsNormal := by
  unfold ofGuid
  cases hfind : known.find? fun type => type.guid == guid with
  | none =>
    intro type htype
    simpa using List.find?_eq_none.1 hfind type htype
  | some type => exact isNormal_of_mem (List.mem_of_find?_eq_some hfind)

/-- The names of well-known types spell no UUIDs. -/
theorem read?_name_of_mem (hformat : format.Documented) {type : PartitionType}
    (h : type ∈ known) : format.read? type.name = none := by
  refine hformat.read?_eq_none (Uuid.not_spells ?_)
  revert type
  decide

/-- A text is read as a type if it is read as the GUID of the type or is the name of the type. -/
theorem parseIn?_eq_some (hformat : format.Documented) {text : String} {type : PartitionType} :
    parseIn? format text = some type ↔
      (type ∈ known ∧ text = type.name) ∨
        ∃ guid, format.read? text = some guid ∧ type = ofGuid guid := by
  unfold parseIn?
  cases hread : format.read? text with
  | some guid =>
    have hname : ¬(type ∈ known ∧ text = type.name) := by
      rintro ⟨hknown, rfl⟩
      rw [read?_name_of_mem hformat hknown] at hread
      cases hread
    simp only [hname, false_or, Option.some.injEq, exists_eq_left']
    exact eq_comm
  | none =>
    simp only [reduceCtorEq, false_and, exists_false, or_false]
    constructor
    · intro h
      have hname := List.find?_some h
      exact ⟨List.mem_of_find?_eq_some h, (beq_iff_eq.1 hname).symm⟩
    · rintro ⟨hknown, rfl⟩
      exact ofName?_name_of_mem hknown

/-- What is read as a type is normal. -/
theorem isNormal_of_parseIn? (hformat : format.Documented) {text : String} {type : PartitionType}
    (h : parseIn? format text = some type) : type.IsNormal := by
  rcases (parseIn?_eq_some hformat).1 h with ⟨hknown, -⟩ | ⟨guid, -, rfl⟩
  · exact isNormal_of_mem hknown
  · exact isNormal_ofGuid guid

/-- A written type is read as the type. -/
theorem parseIn?_renderIn (hformat : format.Documented) {type : PartitionType}
    (h : type.IsNormal) : parseIn? format (type.renderIn format) = some type := by
  rw [parseIn?_eq_some hformat]
  rcases mem_known type with hknown | ⟨guid, rfl⟩
  · have hname : type.renderIn format = type.name := by
      cases type with
      | other guid => exact absurd hknown (by simp [known])
      | _ => rfl
    exact .inl ⟨hknown, hname⟩
  · exact .inr ⟨guid, hformat.read?_write guid, (ofGuid_of_isNormal h).symm⟩

theorem isNormal_of_parse? {text : String} {type : PartitionType} (h : parse? text = some type) :
    type.IsNormal :=
  isNormal_of_parseIn? UuidFormat.standard_documented h

theorem parse?_render {type : PartitionType} (h : type.IsNormal) :
    parse? type.render = some type :=
  parseIn?_renderIn UuidFormat.standard_documented h

end PartitionType

end DiskLayout
