import DiskLayout.Proofs.Document.Showing
import Mathlib.Data.List.Nodup

/-!
# Reading what was written

A record is written as a list of entries, one for each of its fields in the order of declaration,
some of them left out.  A decoder for fields reads such a record back if it does so for each field
on its own: what it finds under the name of a field does not depend on the order of the entries,
and nothing is out of place where the names of the fields are distinct.  What a decoder gives has
the properties that its parts have.

## Main definitions

* `Decoder.Reads` — a decoder gives the same for every source that shows a value
* `Fields.Reads` — the fields of a record are read from its entries
* `Decoder.Yields`, `Fields.Yields` — a property of everything that a decoder gives

## Main results

* `Fields.Reads.seq` — fields are read one by one
* `Fields.Reads.closed`, `Fields.Reads.lenient` — a record is read back
* `Fields.Yields.seq` — a property of a record follows from properties of its fields
-/

namespace DiskLayout

variable {α β : Type} {bound : Nat}

/-! ### Values -/

namespace Decoder

/-- Whether a decoder gives the same for every source that shows a value and is nested at most
`bound` deep. -/
def Reads (bound : Nat) (decode : Decoder α) (value : Value) (x : α) : Prop :=
  ∀ source : Source, source.Shows value → source.depth ≤ bound → decode source = .ok x

namespace Reads

variable {decode : Decoder α} {value : Value} {x : α}

theorem text (text : String) : Reads bound Decoder.text (.text text) text := by
  intro source h _
  rw [Decoder.text, h.text?]
  rfl

theorem bool (truth : Bool) : Reads bound Decoder.bool (.bool truth) truth := by
  intro source h _
  rw [Decoder.bool, h.bool?]
  rfl

theorem natural {limit number : Nat} (hlimit : number < limit) :
    Reads bound (Decoder.natural limit) (.number number) number := by
  intro source h _
  rw [Decoder.natural, h.natural?, Option.filter_some, decide_eq_true hlimit]
  rfl

theorem optional (h : Reads bound decode value x) (hvalue : value ≠ .null) :
    Reads bound (Decoder.optional decode) value (some x) := by
  intro source hshows hbound
  rw [Decoder.optional, hshows.isPresent? hvalue]
  exact map_eq_ok.2 ⟨x, h source hshows hbound, rfl⟩

theorem map {f : α → β} (h : Reads bound decode value x) :
    Reads bound (fun source => (decode source).map f) value (f x) := by
  intro source hshows hbound
  exact map_eq_ok.2 ⟨x, h source hshows hbound, rfl⟩

theorem labelled {ofLabel? : CaseLabel → Option α} {name : String}
    (h : ofLabel? (.name name) = some x) :
    Reads bound (Decoder.labelled ofLabel?) (.text name) x := by
  intro source hshows _
  rw [Decoder.labelled, hshows.case?]
  show (if Option.all Source.isNothing none then require (ofLabel? (.name name)) else refuse) = _
  rw [h]
  rfl

theorem named {ofName? : String → Option α} {name : String} (h : ofName? name = some x) :
    Reads bound (Decoder.named ofName?) (.text name) x :=
  labelled h

/-- A sequence is read if each of its items is. -/
theorem sequence {encode : α → Value} {items : List α}
    (h : ∀ item ∈ items, Reads bound decode (encode item) item) :
    Reads bound (Decoder.sequence decode) (.sequence (items.map encode)) items := by
  intro source hshows hbound
  obtain ⟨sources, hsources, hparts⟩ := hshows.items?
  have hall : Decoder.all decode sources = .ok items := by
    rw [List.forall₂_map_right_iff] at hparts
    clear hsources hshows
    induction hparts with
    | nil => rfl
    | @cons part item _ _ hpart _ ih =>
      rw [List.forall_mem_cons] at h
      rw [Decoder.all, h.1 part hpart.1 (by omega), ih h.2]
      rfl
  rw [Decoder.sequence, hsources]
  exact hall

/-- A mapping with a single key is read as its key says. -/
theorem variant {kind : String → Option (Decoder α)} {key : String} (hkind : kind key = some decode)
    (h : Reads bound decode value x) :
    Reads (bound + 1) (Decoder.variant kind) (.mapping [(key, value)]) x := by
  intro source hshows hbound
  obtain ⟨others, sources, hperm, hsources, hparts⟩ := hshows.entries? (List.nodup_singleton _)
  obtain rfl := List.perm_singleton.1 hperm
  obtain ⟨part, rfl⟩ : ∃ part, sources = [part] := List.length_eq_one_iff.1 hparts.length_eq
  obtain ⟨⟨hkey, hshow, hdepth⟩, -⟩ := List.forall₂_cons.1 hparts
  have hread : decode part.2 = .ok x := h part.2 hshow (by omega)
  rw [Decoder.variant, hshows.isTaggedCase, hsources, if_neg Bool.false_ne_true]
  dsimp only
  rw [show part.1 = key from hkey, hkind]
  dsimp only
  rw [hread]
  rfl

end Reads

/-- Whether everything that a decoder gives has a property. -/
def Yields (decode : Decoder α) (property : α → Prop) : Prop :=
  ∀ source x, decode source = .ok x → property x

namespace Yields

variable {decode : Decoder α} {property : α → Prop}

theorem trivial (decode : Decoder α) : decode.Yields fun _ => True := fun _ _ _ => True.intro

theorem natural (limit : Nat) : (Decoder.natural limit).Yields (· < limit) := by
  intro source number h
  rw [Decoder.natural] at h
  cases hnumber : source.natural?.filter fun number => number < limit with
  | none =>
    rw [hnumber] at h
    cases h
  | some found =>
    rw [hnumber] at h
    obtain rfl := Except.ok.inj h
    exact of_decide_eq_true (Option.filter_eq_some_iff.1 hnumber).2

theorem optional (h : decode.Yields property) :
    (Decoder.optional decode).Yields fun value => ∀ x, value = some x → property x := by
  intro source value hvalue x hx
  subst hx
  rw [Decoder.optional] at hvalue
  split at hvalue
  · obtain ⟨found, hread, hfound⟩ := map_eq_ok.1 hvalue
    obtain rfl := Option.some.inj hfound
    exact h source found hread
  · cases hvalue
  · cases hvalue

theorem all (h : decode.Yields property) {sources : List Source} {items : List α}
    (hall : Decoder.all decode sources = .ok items) : ∀ item ∈ items, property item := by
  induction sources generalizing items with
  | nil =>
    cases hall
    exact fun _ hitem => absurd hitem List.not_mem_nil
  | cons source others ih =>
    obtain ⟨first, hfirst, hrest⟩ := bind_eq_ok.1 hall
    obtain ⟨rest, hothers, hitems⟩ := bind_eq_ok.1 hrest
    cases hitems
    exact List.forall_mem_cons.2 ⟨h source first hfirst, ih hothers⟩

theorem sequence (h : decode.Yields property) :
    (Decoder.sequence decode).Yields fun items => ∀ item ∈ items, property item := by
  intro source items hitems
  obtain ⟨sources, -, hall⟩ := bind_eq_ok.1 hitems
  exact h.all hall

theorem map {f : α → β} {property : β → Prop} (h : decode.Yields fun x => property (f x)) :
    Yields (fun source => (decode source).map f) property := by
  intro source y hy
  obtain ⟨x, hread, rfl⟩ := map_eq_ok.1 hy
  exact h source x hread

theorem variant {kind : String → Option (Decoder α)}
    (h : ∀ key decode, kind key = some decode → decode.Yields property) :
    (Decoder.variant kind).Yields property := by
  intro source x hx
  rw [Decoder.variant] at hx
  split at hx
  · cases hx
  split at hx
  · rename_i key content others _
    split at hx
    · cases hx
    · rename_i decode hkind
      obtain ⟨found, hfound, hx⟩ := bind_eq_ok.1 hx
      split at hx
      · cases hx
        exact h key decode hkind content x hfound
      · cases hx
  · cases hx

end Yields

end Decoder

/-! ### Written records -/

/-- A field of a record as it is written: what it is called and its value, if that is written. -/
structure FieldSlot where
  name : String
  value? : Option Value

/-- The entry of a field. -/
def FieldSlot.entry (slot : FieldSlot) : Entry := ⟨slot.value?.map fun value => (slot.name, value)⟩

theorem FieldSlot.mem_written {slots : List FieldSlot} {name : String} {value : Value} :
    (name, value) ∈ (slots.map FieldSlot.entry).filterMap Entry.written? ↔
      ⟨name, some value⟩ ∈ slots := by
  rw [List.filterMap_map, List.mem_filterMap]
  constructor
  · rintro ⟨⟨slotName, value?⟩, hslot, h⟩
    obtain ⟨written, hwritten, hpair⟩ := Option.map_eq_some_iff.1 h
    cases hpair
    cases hwritten
    exact hslot
  · intro hslot
    exact ⟨_, hslot, rfl⟩

theorem FieldSlot.keys_sublist (slots : List FieldSlot) :
    (((slots.map FieldSlot.entry).filterMap Entry.written?).map Prod.fst).Sublist
      (slots.map FieldSlot.name) := by
  -- A field that is left out has a name and no entry.
  induction slots with
  | nil => exact List.Sublist.slnil
  | cons slot others ih =>
    obtain ⟨name, value?⟩ := slot
    cases value? with
    | none => exact ih.cons name
    | some value => exact ih.cons_cons name

namespace Written

/-- Whether a written record has under the name of a field what shows its value, or nothing where
the value is not written. -/
def Holds (bound : Nat) (written : Written) (slot : FieldSlot) : Prop :=
  match slot.value? with
  | some value => ∀ number, ∃ place source, written.find? slot.name number = some (place, source) ∧
      source.Shows value ∧ source.depth ≤ bound
  | none => ∀ number, written.find? slot.name number = none

variable {sources : List (String × Source)}

theorem find?_named {name : String} {source : Source}
    (hdistinct : (sources.map Prod.fst).Nodup) (h : (name, source) ∈ sources) (number : Nat) :
    ∃ place, (named sources).find? name number = some (place, source) := by
  rw [find?]
  cases hfind : sources.zipIdx.find? fun entry => entry.1.1 == name with
  | none =>
    obtain ⟨index, hindex, hget⟩ := List.mem_iff_getElem.1 h
    have hmem : (sources[index], index) ∈ sources.zipIdx := by
      rw [List.mk_mem_zipIdx_iff_getElem?, List.getElem?_eq_getElem hindex]
    exact absurd (by rw [hget]; exact beq_self_eq_true name) (List.find?_eq_none.1 hfind _ hmem)
  | some found =>
    have hname : found.1.1 = name := by simpa using List.find?_some hfind
    have hmem : found.1 ∈ sources := List.fst_mem_of_mem_zipIdx (List.mem_of_find?_eq_some hfind)
    have heq : found.1 = (name, source) := List.inj_on_of_nodup_map hdistinct hmem h hname
    exact ⟨found.2, by rw [Option.map_some, heq]⟩

theorem find?_named_eq_none {name : String} (h : name ∉ sources.map Prod.fst) (number : Nat) :
    (named sources).find? name number = none := by
  rw [find?, Option.map_eq_none_iff, List.find?_eq_none]
  intro found hfound hname
  refine h (List.mem_map.2 ⟨found.1, List.fst_mem_of_mem_zipIdx hfound, ?_⟩)
  simpa using hname

/-- Nothing is out of place where no name repeats and every entry has a field or needs none. -/
theorem strayPlace?_eq_none {closed : Bool} {names : List String}
    (hdistinct : (sources.map Prod.fst).Nodup)
    (hclosed : closed = true → ∀ part ∈ sources, part.1 ∈ names) :
    (named sources).strayPlace? closed names = none := by
  rw [strayPlace?, Option.map_eq_none_iff, List.find?_eq_none]
  rintro ⟨key, index⟩ hkey
  obtain ⟨hindex, hget⟩ := List.mem_zipIdx' hkey
  dsimp only
  split
  · rw [List.contains_iff_mem, List.mem_take_iff_getElem]
    rintro ⟨earlier, hearlier, heq⟩
    have := hdistinct.getElem_inj_iff.1 (heq.trans hget)
    omega
  · rename_i hnames
    intro htrue
    refine hnames (List.contains_iff_mem.2 ?_)
    rw [hget, List.getElem_map]
    exact hclosed htrue _ (List.getElem_mem _)

end Written

/-! ### Fields -/

namespace Fields

theorem combine_eq_ok {function : Except PlacedRefusal (α → β)} {value : Except PlacedRefusal α}
    {y : β} :
    combine function value = .ok y ↔ ∃ f x, function = .ok f ∧ value = .ok x ∧ f x = y := by
  cases function <;> cases value <;> simp [combine]

/-- Whether the fields of a record are read from its entries, wherever these stand. -/
def Reads (bound : Nat) (fields : Fields α) (entries : List Entry) (x : α) : Prop :=
  ∃ slots : List FieldSlot, slots.map FieldSlot.entry = entries ∧
    slots.map FieldSlot.name = fields.names ∧
      ∀ number written, (∀ slot ∈ slots, Written.Holds bound written slot) →
        fields.decode number written = .ok x

namespace Reads

variable {decode : Decoder α} {value : Value} {x : α} {entries : List Entry}

theorem field (name : String) (absent : Option α) (h : decode.Reads bound value x) :
    Reads bound (.field name absent decode) [.always name value] x := by
  refine ⟨[⟨name, some value⟩], rfl, rfl, fun number written hholds => ?_⟩
  obtain ⟨place, source, hfind, hshows, hdepth⟩ := hholds _ List.mem_cons_self number
  rw [Fields.field]
  dsimp only at hfind ⊢
  rw [hfind]
  dsimp only
  rw [h source hshows hdepth]
  rfl

theorem absent (name : String) (decode : Decoder α) :
    Reads bound (.withDefault name x decode) [⟨none⟩] x := by
  refine ⟨[⟨name, none⟩], rfl, rfl, fun number written hholds => ?_⟩
  have hfind := hholds _ List.mem_cons_self number
  rw [Fields.withDefault, Fields.field]
  dsimp only at hfind ⊢
  rw [hfind]

theorem required (name : String) (h : decode.Reads bound value x) :
    Reads bound (.required name decode) [.always name value] x :=
  field name none h

theorem withDefault (name : String) (default : α) (h : decode.Reads bound value x) :
    Reads bound (.withDefault name default decode) [.always name value] x :=
  field name (some default) h

/-- A field whose default is left out. -/
theorem unlessDefault (name : String) {default : α} {isDefault : Bool}
    (hdefault : isDefault = true → x = default) (h : decode.Reads bound value x) :
    Reads bound (.withDefault name default decode) [.whenNot isDefault name value] x := by
  cases isDefault with
  | true =>
    obtain rfl := hdefault rfl
    exact absent name decode
  | false => exact withDefault name default h

/-- A field whose value may be absent. -/
theorem optional (name : String) {encode : α → Value} {x? : Option α}
    (h : ∀ x, x? = some x → encode x ≠ .null ∧ decode.Reads bound (encode x) x) :
    Reads bound (.optional name decode) [.whenSome name encode x?] x? := by
  cases x? with
  | none => exact absent name (Decoder.optional decode)
  | some x => exact field name (some none) ((h x rfl).2.optional (h x rfl).1)

/-- A field whose value may be absent and is a text otherwise. -/
theorem optionalText (name : String) {encode : α → String} {x? : Option α}
    (h : ∀ x, x? = some x → decode.Reads bound (.text (encode x)) x) :
    Reads bound (.optional name decode) [.whenSome name (fun x => .text (encode x)) x?] x? :=
  optional name fun x hx => ⟨nofun, h x hx⟩

/-- A field whose value may be absent and is a number otherwise. -/
theorem optionalNumber (name : String) {limit : Nat} {number? : Option Nat}
    (h : ∀ number, number? = some number → number < limit) :
    Reads bound (.optional name (Decoder.natural limit)) [.whenSome name .number number?] number? :=
  optional name fun number hnumber => ⟨nofun, .natural (h number hnumber)⟩

theorem map (f : α → β) {fields : Fields α} (h : Reads bound fields entries x) :
    Reads bound (f <$> fields) entries (f x) := by
  obtain ⟨slots, hentries, hnames, hdecode⟩ := h
  refine ⟨slots, hentries, hnames, fun number written hholds => ?_⟩
  exact map_eq_ok.2 ⟨x, hdecode number written hholds, rfl⟩

/-- Fields are read one by one. -/
theorem seq {functions : Fields (α → β)} {fields : Fields α} {f : α → β} {others : List Entry}
    (hfunctions : Reads bound functions entries f) (hfields : Reads bound fields others x) :
    Reads bound (functions <*> fields) (entries ++ others) (f x) := by
  obtain ⟨slots, rfl, hnames, hdecode⟩ := hfunctions
  obtain ⟨otherSlots, rfl, hothers, hothersDecode⟩ := hfields
  refine ⟨slots ++ otherSlots, List.map_append, ?_, fun number written hholds => ?_⟩
  · rw [List.map_append, hnames, hothers]
    rfl
  · rw [List.forall_mem_append] at hholds
    have hfunction := hdecode number written hholds.1
    have hvalue := hothersDecode (number + functions.names.length) written hholds.2
    exact combine_eq_ok.2 ⟨f, x, hfunction, hvalue, rfl⟩

/-- Every entry of a record is named after a field. -/
theorem name_mem {fields : Fields α} (h : Reads bound fields entries x) {entry : String × Value}
    (hentry : entry ∈ entries.filterMap Entry.written?) : entry.1 ∈ fields.names := by
  obtain ⟨slots, rfl, hslots, -⟩ := h
  exact hslots ▸ (FieldSlot.keys_sublist slots).subset (List.mem_map_of_mem hentry)

/-- Fields are read from the entries of a record, also where there are entries of other names. -/
theorem decodeWritten {fields : Fields α} {rest : List Entry} {closed : Bool}
    {sources : List (String × Source)} (h : Reads bound fields entries x)
    (hnames : fields.names.Nodup)
    (hpresents : Source.Presents bound sources ((entries ++ rest).filterMap Entry.written?))
    (hrest : ∀ entry ∈ rest.filterMap Entry.written?, entry.1 ∉ fields.names)
    (hclosed : closed = true → rest = []) :
    fields.decodeWritten closed (.named sources) = .ok x := by
  have hentries : ∀ entry ∈ entries.filterMap Entry.written?, entry.1 ∈ fields.names :=
    fun _ hentry => h.name_mem hentry
  obtain ⟨slots, rfl, hslots, hdecode⟩ := h
  rw [List.filterMap_append] at hpresents
  have hholds : ∀ slot ∈ slots, (Written.named sources).Holds bound slot := by
    rintro ⟨name, value?⟩ hslot
    cases value? with
    | some value =>
      intro number
      obtain ⟨source, hsource, hshows, hdepth⟩ :=
        hpresents.shown (name, value) (List.mem_append_left _ (FieldSlot.mem_written.2 hslot))
      obtain ⟨place, hfind⟩ := Written.find?_named hpresents.distinct hsource number
      exact ⟨place, source, hfind, hshows, hdepth⟩
    | none =>
      -- An entry of this name would belong to another field, or to none.
      refine Written.find?_named_eq_none fun hname => ?_
      obtain ⟨part, hpart, rfl⟩ := List.mem_map.1 hname
      obtain ⟨entry, hentry, hkey⟩ := List.mem_map.1 (hpresents.named part hpart)
      have hfield : entry.1 ∈ fields.names := by
        rw [hkey, ← hslots]
        exact List.mem_map_of_mem hslot
      rcases List.mem_append.1 hentry with hentry | hentry
      · have hother : FieldSlot.mk entry.1 (some entry.2) ∈ slots := FieldSlot.mem_written.1 hentry
        have heq := List.inj_on_of_nodup_map (hslots ▸ hnames) hother hslot hkey
        exact nomatch (FieldSlot.mk.inj heq).2
      · exact hrest entry hentry hfield
  have hstray : (Written.named sources).strayPlace? closed fields.names = none := by
    refine Written.strayPlace?_eq_none hpresents.distinct fun htrue part hpart => ?_
    obtain ⟨entry, hentry, hname⟩ := List.mem_map.1 (hpresents.named part hpart)
    rw [hclosed htrue, List.filterMap_nil, List.append_nil] at hentry
    exact hname ▸ hentries entry hentry
  rw [Fields.decodeWritten, hstray, hdecode 0 _ hholds]
  rfl

/-- Fields are read from the entries of their record. -/
theorem decodeRecord {fields : Fields α} {closed : Bool} {sources : List (String × Source)}
    (h : Reads bound fields entries x) (hnames : fields.names.Nodup)
    (hpresents : Source.Presents bound sources (entries.filterMap Entry.written?)) :
    fields.decodeWritten closed (.named sources) = .ok x := by
  rw [← List.append_nil entries] at hpresents
  exact h.decodeWritten hnames hpresents nofun fun _ => rfl

theorem distinct {fields : Fields α} (h : Reads bound fields entries x)
    (hnames : fields.names.Nodup) :
    ((entries.filterMap Entry.written?).map Prod.fst).Nodup := by
  obtain ⟨slots, rfl, hslots, -⟩ := h
  exact (FieldSlot.keys_sublist slots).nodup (hslots ▸ hnames)

/-- A record is read back, whether there may be entries besides its fields or not. -/
theorem ofSource {fields : Fields α} {closed : Bool} {source : Source}
    (h : Reads bound fields entries x) (hnames : fields.names.Nodup)
    (hshows : source.Shows (.record entries)) (hbound : source.depth ≤ bound) :
    (Decoder.require (Written.ofSource? source) >>= fun written =>
      fields.decodeWritten closed written) = .ok x := by
  obtain ⟨sources, hsources, hpresents⟩ := hshows.presents (h.distinct hnames) hbound
  have hwritten : Written.ofSource? source = some (.named sources) := by
    rw [Written.ofSource?, hsources]
  rw [hwritten]
  exact h.decodeRecord hnames hpresents

/-- A record without other entries is read back. -/
theorem closed {fields : Fields α} (h : Reads bound fields entries x)
    (hnames : fields.names.Nodup) : fields.closed.Reads bound (.record entries) x :=
  fun _ hshows hbound => h.ofSource hnames hshows hbound

/-- A record that may have other entries is read back. -/
theorem lenient {fields : Fields α} (h : Reads bound fields entries x)
    (hnames : fields.names.Nodup) : fields.lenient.Reads bound (.record entries) x :=
  fun _ hshows hbound => h.ofSource hnames hshows hbound

end Reads

/-- Whether everything that is read from fields has a property. -/
def Yields (fields : Fields α) (property : α → Prop) : Prop :=
  ∀ number written x, fields.decode number written = .ok x → property x

namespace Yields

variable {fields : Fields α} {property : α → Prop}

theorem field {name : String} {absent : Option α} {decode : Decoder α}
    (habsent : ∀ x, absent = some x → property x) (h : decode.Yields property) :
    (Fields.field name absent decode).Yields property := by
  intro number written x hx
  rw [Fields.field] at hx
  dsimp only at hx
  split at hx
  · rename_i place source _
    exact h source x (mapError_eq_ok.1 hx)
  · split at hx
    · cases hx
      exact habsent x rfl
    · cases hx

theorem required {name : String} {decode : Decoder α} (h : decode.Yields property) :
    (Fields.required name decode).Yields property :=
  field (fun _ hx => nomatch hx) h

theorem withDefault {name : String} {default : α} {decode : Decoder α}
    (hdefault : property default) (h : decode.Yields property) :
    (Fields.withDefault name default decode).Yields property :=
  field (fun _ hx => Option.some.inj hx ▸ hdefault) h

theorem optional {name : String} {decode : Decoder α} (h : decode.Yields property) :
    (Fields.optional name decode).Yields fun value => ∀ x, value = some x → property x :=
  field (fun _ hvalue _ hx => nomatch Option.some.inj hvalue ▸ hx) h.optional

theorem anything (fields : Fields α) : fields.Yields fun _ => True := fun _ _ _ _ => True.intro

theorem map {f : α → β} {property : β → Prop} {other : α → Prop}
    (hproperty : ∀ x, other x → property (f x)) (h : fields.Yields other) :
    (f <$> fields).Yields property := by
  intro number written y hy
  obtain ⟨x, hread, rfl⟩ := map_eq_ok.1 hy
  exact hproperty x (h number written x hread)

/-- A property of what fields make together follows from properties of each. -/
theorem seq {functions : Fields (α → β)} {other : α → Prop} {property : β → Prop}
    (hfunctions : functions.Yields fun f => ∀ x, other x → property (f x))
    (h : fields.Yields other) : (functions <*> fields).Yields property := by
  intro number written y hy
  obtain ⟨f, x, hfunction, hread, rfl⟩ := combine_eq_ok.1 hy
  exact hfunctions _ _ f hfunction x (h _ _ x hread)

theorem decodeWritten (h : fields.Yields property) {closed : Bool} {written : Written} {x : α}
    (hx : fields.decodeWritten closed written = .ok x) : property x := by
  rw [Fields.decodeWritten, conclude.eq_def] at hx
  split at hx
  · rename_i hdecode
    cases hx
    exact h 0 written x hdecode
  · cases hx
  · cases hx
  · split at hx <;> cases hx

theorem closed (h : fields.Yields property) : fields.closed.Yields property := by
  intro source x hx
  obtain ⟨written, -, hx⟩ := bind_eq_ok.1 hx
  exact h.decodeWritten hx

end Yields

end Fields

end DiskLayout
