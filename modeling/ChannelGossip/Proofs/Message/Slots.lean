import ChannelGossip.Proofs.Message.Extension
import ChannelGossip.Proofs.Message.Obtainable
import ChannelGossip.Table

/-! # The slots of a message

Whatever way a message was had, it has one slot for each slot of its layout, in the same order, and
each field is found in its own slot and in no other.  Loose values make a message exactly if they
are of the kinds in the layout, and then they are the values in its slots.  Main statements:

* `Message.ShowsLayout`   a message that answers as its layout says, whatever is asked of it
* `Message.WellFormed.get?_eq_some_iff`   each field is found in its own slot
* `Message.slots_follow_layout`   all messages that can be had -/

namespace ChannelGossip.Message

/-- A message that shows the layout of its type number in everything that can be asked of it. -/
structure ShowsLayout (m : Message) : Prop where
  /-- Its fields are those of the layout in wire order, -/
  fields_eq : m.fields.map Prod.fst = (Layout.ofTypeId m.typeId).map Slot.field
  /-- and their values are of the kinds in the layout. -/
  kinds_eq : (m.fields.map Prod.snd).map Value.kind = (Layout.ofTypeId m.typeId).map Slot.kind
  /-- Outside the catalogue it has nothing but its type number. -/
  fields_of_unknown : m.kind? = none → m.fields = [(.type, .messageType m.typeId)]
  /-- The type number comes first, -/
  head?_eq : m.fields.head? = some (.type, .messageType m.typeId)
  /-- also in what it is written as. -/
  take_encode : m.encode.take 2 = Bytes.ofNat 2 m.typeId.toNat
  /-- The bytes after its last field are some, if it has any. -/
  remainder_ne : m.remainder ≠ some []
  /-- It has a value for every field of the layout and for no other, -/
  isSome_get?_iff : ∀ field,
    (m.get? field).isSome ↔ field ∈ (Layout.ofTypeId m.typeId).map Slot.field
  /-- and the value of a field is that in its only slot. -/
  get?_eq_some_iff : ∀ field v, m.get? field = some v ↔
    m.fields.filter (fun slot => slot.1 = field) = [(field, v)]
  /-- It has a remainder if it is written with more bytes than its fields. -/
  contains_remainder_iff :
    m.contains .remainder ↔ (encodeFields m.fields).length < m.encode.length

namespace WellFormed

variable {m : Message} (h : m.WellFormed)

include h

/-- The fields of a well-formed message are those of its layout. -/
theorem map_fst_fields : m.fields.map Prod.fst = (Layout.ofTypeId m.typeId).map Slot.field := by
  rw [← h.layout_eq, Layout.map_field_ofFields]

/-- No field has two slots. -/
theorem nodup_fields : (m.fields.map Prod.fst).Nodup := by
  rw [h.map_fst_fields]
  exact Layout.nodup_fields_ofTypeId m.typeId

/-- `get?` finds a value that the field has in some slot. -/
theorem get?_eq_some_iff_mem {field : Field} {v : Value} :
    m.get? field = some v ↔ (field, v) ∈ m.fields :=
  (Table.mem_entries_iff ⟨m.fields, h.nodup_fields⟩ field v).symm

/-- `get?` finds a value exactly for the fields of the layout. -/
theorem isSome_get?_iff {field : Field} :
    (m.get? field).isSome ↔ field ∈ (Layout.ofTypeId m.typeId).map Slot.field := by
  rw [← h.map_fst_fields, Option.isSome_iff_exists, List.mem_map]
  constructor
  · rintro ⟨v, hv⟩
    exact ⟨_, h.get?_eq_some_iff_mem.1 hv, rfl⟩
  · rintro ⟨⟨_, v⟩, hmem, rfl⟩
    exact ⟨v, h.get?_eq_some_iff_mem.2 hmem⟩

/-- `get?` finds the value in the only slot of the field. -/
theorem get?_eq_some_iff {field : Field} {v : Value} : m.get? field = some v ↔
    m.fields.filter (fun slot => slot.1 = field) = [(field, v)] := by
  rw [h.get?_eq_some_iff_mem]
  constructor
  · intro hmem
    obtain ⟨before, after, hfields⟩ := List.append_of_mem hmem
    have hnodup := h.nodup_fields
    rw [hfields, List.map_append, List.map_cons, List.nodup_middle, List.nodup_cons,
      List.mem_append, not_or] at hnodup
    -- No slot on either side is of the same field.
    have hother : ∀ slots : List (Field × Value), field ∉ slots.map Prod.fst →
        slots.filter (fun slot => slot.1 = field) = [] := by
      intro slots hslots
      refine List.filter_eq_nil_iff.2 fun slot hslot heq => hslots ?_
      exact List.mem_map.2 ⟨slot, hslot, of_decide_eq_true heq⟩
    rw [hfields, List.filter_append, hother before hnodup.1.1, List.nil_append,
      List.filter_cons_of_pos (by simp), hother after hnodup.1.2]
  · intro hfilter
    have hmem : (field, v) ∈ m.fields.filter (fun slot => slot.1 = field) := by
      rw [hfilter]
      exact List.mem_singleton_self _
    exact List.mem_of_mem_filter hmem

/-- A remainder shows in the number of bytes that `encode` writes. -/
theorem contains_remainder_iff :
    m.contains .remainder ↔ (encodeFields m.fields).length < m.encode.length := by
  show m.remainder.isSome ↔ _
  rw [encode_eq, List.length_append]
  have hremainder := h.remainder_ne
  rcases hr : m.remainder with _ | _ | ⟨b, bytes⟩
  · simp
  · exact absurd hr hremainder
  · simp

/-- A well-formed message shows its layout. -/
theorem showsLayout : m.ShowsLayout where
  fields_eq := h.map_fst_fields
  kinds_eq := by
    rw [← h.layout_eq, Layout.ofFields, List.map_map, List.map_map]
    rfl
  fields_of_unknown hkind := by
    have hlayout := h.layout_eq
    have hunknown : Layout.ofTypeId m.typeId = Layout.unknown := by
      simp only [Layout.ofTypeId, show MessageKind.ofTypeId? m.typeId = none from hkind]
    obtain ⟨fields, hfields⟩ := List.head?_eq_some_iff.1 h.head_eq
    rw [hunknown, hfields, Layout.ofFields_cons] at hlayout
    have hnil : fields = [] := List.map_eq_nil_iff.1 (List.cons.inj hlayout).2
    rw [hfields, hnil]
  head?_eq := h.head_eq
  take_encode := by
    obtain ⟨rest, hrest⟩ := peekType_eq_ok_iff.1 h.peekType_encode
    rw [hrest, List.take_left' (Bytes.length_ofNat 2 _)]
  remainder_ne := h.remainder_ne
  isSome_get?_iff _ := h.isSome_get?_iff
  get?_eq_some_iff _ _ := h.get?_eq_some_iff
  contains_remainder_iff := h.contains_remainder_iff

end WellFormed

/-! ## All messages -/

/-- Every message of `Obtainable` shows its layout: there is one slot for each slot of the layout in
    the same order and of the same kind, with the type number first, `get?` finds each field in its
    own slot, and bytes after the last field are had only if there are some.  `ofValues` makes a
    message exactly of values of the kinds in the layout of `kind`, and then they are in its slots,
    unchanged, after the type number. -/
theorem slots_follow_layout :
    (∀ m : Message, m.Obtainable → m.ShowsLayout) ∧
      ∀ (kind : MessageKind) (vs : List Value),
        ((∃ m, ofValues kind vs = .ok m) ↔ vs.map Value.kind = kind.body.map Slot.kind) ∧
        ∀ m, ofValues kind vs = .ok m → m.typeId = kind.typeId ∧
          m.fields.map Prod.fst = kind.layout.map Slot.field ∧
          m.fields.map Prod.snd = .messageType kind.typeId :: vs ∧ m.remainder = none := by
  refine ⟨fun m hm => hm.wellFormed.showsLayout, fun kind vs => ⟨?_, fun m hm => ?_⟩⟩
  · simp only [ofValues_eq_ok_iff, exists_and_left, exists_eq, and_true]
  · obtain ⟨hkinds, rfl⟩ := ofValues_eq_ok_iff.1 hm
    refine ⟨rfl, ?_, ?_, rfl⟩
    · rw [(wellFormed_assemble hkinds).map_fst_fields]
      simp only [assemble, Layout.ofTypeId, MessageKind.ofTypeId?_typeId]
    · show _ :: (assemble kind vs).fields.tail.map Prod.snd = _
      rw [values_assemble hkinds]

/-- A pong made from loose values, of which the remainder was replaced by nothing and then by two
    bytes, has its payload in the only slot for it and the two bytes after that. -/
theorem slots_follow_layout_two_remainders :
    let payload := Value.varBytes (.filled 7 2)
    let m := ((assemble .pong [payload]).withRemainder []).withRemainder [1, 2]
    m.Obtainable ∧ m.fields.filter (fun slot => slot.1 = .pongBytes) = [(.pongBytes, payload)] ∧
      m.get? .remainder = none ∧ m.contains .remainder ∧
      (encodeFields m.fields).length < m.encode.length := by
  intro payload m
  -- The payload is of the only kind that a pong has a slot for.
  have hvalues : ofValues .pong [payload] = .ok (assemble .pong [payload]) := rfl
  have hm : m.Obtainable := .withRemainder (.withRemainder (.ofValues hvalues) []) [1, 2]
  have hshows : m.ShowsLayout := slots_follow_layout.1 m hm
  refine ⟨hm, (hshows.get?_eq_some_iff .pongBytes payload).1 rfl, ?_, rfl,
    hshows.contains_remainder_iff.1 rfl⟩
  -- The layout has no slot for the remainder.
  rw [← Option.not_isSome_iff_eq_none, hshows.isSome_get?_iff]
  decide

end ChannelGossip.Message
