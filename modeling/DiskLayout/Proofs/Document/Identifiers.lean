import DiskLayout.Document.Table
import DiskLayout.Proofs.Identifier.RoundTrip
import DiskLayout.Proofs.Outcome

/-!
# Identifiers in documents

A partition type is given in a document by its name or by its GUID, in any spelling that the format
of UUIDs reads, and a volume identifier by any text.  What is read is written in one way, and from
that it is read again.  Nothing is relied on here but what is documented of the format.

## Main results

* `PartitionType.decodeIn_eq_ok` — which texts are accepted as a partition type
* `identifiers_reread` — what is read once is read again from what is written of it
-/

namespace DiskLayout

variable {format : UuidFormat}

namespace PartitionType

theorem guid_ofGuid (guid : Uuid) : (ofGuid guid).guid = guid := by
  unfold ofGuid
  cases hfind : known.find? fun type => type.guid == guid with
  | none => rfl
  | some type =>
    have hguid := List.find?_some hfind
    exact beq_iff_eq.1 hguid

theorem decodeIn_eq_ok {text : String} {type : PartitionType} :
    decodeIn format (.value (.text text)) = .ok type ↔ parseIn? format text = some type := by
  have htext : Decoder.text (.value (.text text)) = .ok text := rfl
  rw [decodeIn, htext, ok_bind]
  cases parseIn? format text with
  | none => simp
  | some found => exact ⟨fun h => congrArg some (Except.ok.inj h), fun h => by cases h; rfl⟩

end PartitionType

/-- In a format that is as documented, every GUID has one partition type, which is read again from
what is written of it.  A text is accepted as a partition type if it is the name of one or is read as
a GUID, so if it spells one; what is written of the type is read as the same type, and the name of a
type and the spellings of its GUID are read alike.  Any text is accepted as a volume identifier,
which is read again from what is written of it, and nothing else than the text is written unless it
spells a UUID. -/
theorem identifiers_reread (hformat : format.Documented) :
    (∀ guid : Uuid, (PartitionType.ofGuid guid).guid = guid ∧
      PartitionType.decodeIn format
        (.value (.text ((PartitionType.ofGuid guid).renderIn format))) = .ok (.ofGuid guid)) ∧
    (∀ (text : String) (type : PartitionType),
      PartitionType.decodeIn format (.value (.text text)) = .ok type ↔
        (type ∈ PartitionType.known ∧ text = type.name) ∨
          ∃ guid, format.read? text = some guid ∧ type = .ofGuid guid) ∧
    (∀ (text : String) (type : PartitionType),
      PartitionType.decodeIn format (.value (.text text)) = .ok type →
        (text = type.name ∨ Uuid.Spells text type.guid) ∧
          PartitionType.decodeIn format (.value (.text (type.renderIn format))) = .ok type) ∧
    (∀ type ∈ PartitionType.known, ∀ text : String,
      text = type.name ∨ Uuid.SpellsPlainly text type.guid →
        PartitionType.decodeIn format (.value (.text text)) = .ok type) ∧
    ∀ text : String, ∃ id, VolumeId.decodeIn format (.value (.text text)) = .ok id ∧
      VolumeId.decodeIn format (.value (.text (id.writeIn format))) = .ok id ∧
      (∀ uuid, Uuid.SpellsPlainly text uuid →
        id = .uuid uuid ∧ id.writeIn format = uuid.render) ∧
      ((∀ uuid, ¬ Uuid.Spells text uuid) → id = .verbatim text ∧ id.writeIn format = text) := by
  refine ⟨fun guid => ⟨PartitionType.guid_ofGuid guid, ?_⟩, fun text type => ?_,
    fun text type h => ⟨?_, ?_⟩, fun type hknown text h => ?_, fun text => ?_⟩
  · exact PartitionType.decodeIn_eq_ok.2
      (PartitionType.parseIn?_renderIn hformat (PartitionType.isNormal_ofGuid guid))
  · rw [PartitionType.decodeIn_eq_ok, PartitionType.parseIn?_eq_some hformat]
  · rw [PartitionType.decodeIn_eq_ok, PartitionType.parseIn?_eq_some hformat] at h
    rcases h with ⟨-, hname⟩ | ⟨guid, hread, rfl⟩
    · exact .inl hname
    · rw [PartitionType.guid_ofGuid]
      exact .inr (hformat.spells hread)
  · rw [PartitionType.decodeIn_eq_ok] at h
    exact PartitionType.decodeIn_eq_ok.2
      (PartitionType.parseIn?_renderIn hformat (PartitionType.isNormal_of_parseIn? hformat h))
  · rw [PartitionType.decodeIn_eq_ok, PartitionType.parseIn?_eq_some hformat]
    rcases h with hname | hspells
    · exact .inl ⟨hknown, hname⟩
    · exact .inr ⟨type.guid, hformat.reads hspells, (PartitionType.ofGuid_guid_of_mem hknown).symm⟩
  · refine ⟨VolumeId.readIn format text, rfl, ?_, fun uuid huuid => ?_, fun hnone => ?_⟩
    · exact congrArg Except.ok (VolumeId.readIn_writeIn_readIn hformat text)
    · rw [VolumeId.readIn_of_some (hformat.reads huuid)]
      exact ⟨rfl, hformat.write_eq uuid⟩
    · rw [VolumeId.readIn_of_none (hformat.read?_eq_none hnone)]
      exact ⟨rfl, rfl⟩

/-- The GUID of the EFI system partition in capital letters, between braces. -/
def bracedGuid : String := "\x7bC12A7328-F81F-11D2-BA4B-00A0C93EC93B\x7d"

theorem identifiers_reread_bracedGuid :
    PartitionType.decode (.value (.text bracedGuid)) = .ok .esp ∧
      PartitionType.decode (.value (.text "esp")) = .ok .esp ∧
      PartitionType.decode PartitionType.esp.encode = .ok .esp ∧
      (∃ id, VolumeId.decode (.value (.text bracedGuid)) = .ok id ∧
        id.toText = PartitionType.esp.guid.render) ∧
      ∃ id, VolumeId.decode (.value (.text "7B77-95E7")) = .ok id ∧ id.toText = "7B77-95E7" := by
  have hspells : Uuid.SpellsPlainly bracedGuid PartitionType.esp.guid := by decide
  have hnone : ∀ uuid, ¬ Uuid.Spells "7B77-95E7" uuid := Uuid.not_spells (by decide)
  -- Documents use the standard format, of which the documented behaviour holds.
  obtain ⟨-, -, hwritten, hknown, hvolume⟩ := identifiers_reread UuidFormat.standard_documented
  have hesp := hknown .esp (by decide) "esp" (.inl rfl)
  refine ⟨hknown .esp (by decide) bracedGuid (.inr hspells), hesp,
    (hwritten "esp" .esp hesp).2, ?_, ?_⟩
  · obtain ⟨id, hid, -, hsame, -⟩ := hvolume bracedGuid
    exact ⟨id, hid, (hsame _ hspells).2⟩
  · obtain ⟨id, hid, -, -, hsame⟩ := hvolume "7B77-95E7"
    exact ⟨id, hid, (hsame hnone).2⟩

end DiskLayout
