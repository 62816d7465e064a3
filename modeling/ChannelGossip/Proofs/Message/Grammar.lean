import ChannelGossip.Proofs.Wire.Grammar

/-! # The frames that are read

A frame is a type number, then one string from the language of each field that goes with the number,
and then anything at all.  What is in the catalogue of numbers is read by all readers alike, and
nothing else is read by those that insist on the catalogue.  Main statements:

* `Message.Spells`   the frames and the message that each of them stands for
* `Message.decode_iff_spells`   the readers accept exactly these frames -/

namespace ChannelGossip.Message

/-- The frames that stand for a message: a type number outside the catalogue and anything after it,
    or the number of a kind, one string for each field of that kind in order, and anything after
    them. -/
inductive Spells : Bytes → Message → Prop where
  | uncatalogued {head rest : Bytes} {id : UInt16} (length_eq : head.length = 2)
      (toNat_eq : Bytes.toNat head = id.toNat) (unknown : ∀ kind : MessageKind, kind.typeId ≠ id) :
      Spells (head ++ rest) ⟨id, [(.type, .messageType id)], nonEmpty rest⟩
  | catalogued {head rest : Bytes} {pieces : List Bytes} {fields : List (Field × Value)}
      (kind : MessageKind) (length_eq : head.length = 2)
      (toNat_eq : Bytes.toNat head = kind.typeId.toNat)
      (spells : kind.body.Spells pieces fields) :
      Spells (head ++ (pieces.flatten ++ rest))
        ⟨kind.typeId, (.type, .messageType kind.typeId) :: fields, nonEmpty rest⟩

/-- A body has no slot for the remainder. -/
private theorem kind_ne_remainder_of_mem_body (kind : MessageKind) :
    ∀ slot ∈ kind.body, slot.kind ≠ .remainder := by
  intro slot hslot
  have hmem : slot ∈ Layout.ofTypeId kind.typeId := by
    rw [Layout.ofTypeId, MessageKind.ofTypeId?_typeId]
    exact List.mem_cons_of_mem _ hslot
  exact Layout.kind_ne_remainder hmem

/-- A frame that stands for a message is read by `decode` as that message. -/
theorem Spells.decode {frame : Bytes} {m : Message} (h : Spells frame m) :
    Message.decode frame = .ok m := by
  rw [decode_eq_ok_iff]
  cases h with
  | @uncatalogued head rest id length_eq toNat_eq unknown =>
    -- Outside the catalogue the layout is the type number alone.
    have hnone : MessageKind.ofTypeId? id = none := by
      rw [Option.eq_none_iff_forall_ne_some]
      intro kind hkind
      exact unknown kind (MessageKind.typeId_of_ofTypeId? hkind)
    refine ⟨⟨?_, rfl, nonEmpty_ne_some_nil rest⟩, List.forall_mem_singleton.2 trivial, ?_⟩
    · simp only [Layout.ofTypeId, hnone]
      rfl
    · rw [encode_eq, getD_nonEmpty, (Bytes.eq_ofNat_iff id.toNat_lt).2 ⟨length_eq, toNat_eq⟩]
      rfl
  | @catalogued head rest pieces fields kind length_eq toNat_eq spells =>
    -- In the catalogue the pieces are what canonical fields are written as.
    obtain ⟨hfields, hcanonical, rfl⟩ :=
      (Layout.spells_iff (kind_ne_remainder_of_mem_body kind)).1 spells
    refine ⟨⟨?_, rfl, nonEmpty_ne_some_nil rest⟩, List.forall_mem_cons.2 ⟨trivial, hcanonical⟩, ?_⟩
    · rw [Layout.ofTypeId, MessageKind.ofTypeId?_typeId, Layout.ofFields_cons, hfields]
      rfl
    · rw [encode_eq, getD_nonEmpty, encodeFields_cons, List.append_assoc,
        (Bytes.eq_ofNat_iff kind.typeId.toNat_lt).2 ⟨length_eq, toNat_eq⟩]
      rfl

/-- A frame that `decode` reads stands for the message. -/
theorem spells_of_decode {frame : Bytes} {m : Message} (h : decode frame = .ok m) :
    Spells frame m := by
  obtain ⟨hwf, hcanonical, rfl⟩ := decode_eq_ok_iff.1 h
  obtain ⟨id, allFields, remainder⟩ := m
  obtain ⟨fields, hfields⟩ := List.head?_eq_some_iff.1 hwf.head_eq
  obtain rfl : allFields = (.type, .messageType id) :: fields := hfields
  obtain ⟨hlength, htoNat⟩ := (Bytes.eq_ofNat_iff (w := 2) id.toNat_lt).1 rfl
  have hlayout : Layout.typeSlot :: Layout.ofFields fields = Layout.ofTypeId id := hwf.layout_eq
  have hremainder : nonEmpty (remainder.getD []) = remainder := nonEmpty_getD hwf.remainder_ne
  rw [encode_eq, encodeFields_cons, List.append_assoc, ← hremainder, getD_nonEmpty]
  -- The layout of the message tells which of the two ways it is.
  cases hkind : MessageKind.ofTypeId? id with
  | none =>
    simp only [Layout.ofTypeId, hkind, Layout.unknown, List.cons.injEq, true_and] at hlayout
    obtain rfl : fields = [] := List.map_eq_nil_iff.1 hlayout
    refine .uncatalogued hlength htoNat fun kind heq => ?_
    rw [← heq, MessageKind.ofTypeId?_typeId] at hkind
    cases hkind
  | some kind =>
    obtain rfl := MessageKind.typeId_of_ofTypeId? hkind
    simp only [Layout.ofTypeId, hkind, MessageKind.layout, List.cons.injEq, true_and] at hlayout
    refine .catalogued kind hlength htoNat ?_
    rw [Layout.spells_iff (kind_ne_remainder_of_mem_body kind)]
    exact ⟨hlayout, (List.forall_mem_cons.1 hcanonical).2, rfl⟩

/-- The number at the front of a frame is that of the message. -/
theorem Spells.toNat_take {frame : Bytes} {m : Message} (h : Spells frame m) :
    Bytes.toNat (frame.take 2) = m.typeId.toNat := by
  cases h with
  | uncatalogued length_eq toNat_eq => rw [List.take_left' length_eq, toNat_eq]
  | catalogued kind length_eq toNat_eq => rw [List.take_left' length_eq, toNat_eq]

/-- A frame that stands for a message has a type number. -/
theorem Spells.two_le_length {frame : Bytes} {m : Message} (h : Spells frame m) :
    2 ≤ frame.length := by
  cases h with
  | uncatalogued length_eq => simp [length_eq]
  | catalogued kind length_eq => simp [length_eq]

/-- `decode` accepts exactly the frames of `Spells`, and reads the message that they stand for;
    `decodeKnown` and `decodeAs` accept those of them with a number of the catalogue, or with the
    number of the given kind.  There is only one way to cut a frame into the `pieces` that its
    fields are spelled with. -/
theorem decode_iff_spells (frame : Bytes) :
    (∀ m, decode frame = .ok m ↔ Spells frame m) ∧
      (∀ (kind : MessageKind) (pieces pieces' : List Bytes) (fields fields' : List (Field × Value))
        (rest rest' : Bytes), kind.body.Spells pieces fields → kind.body.Spells pieces' fields' →
        frame.drop 2 = pieces.flatten ++ rest → frame.drop 2 = pieces'.flatten ++ rest' →
        pieces = pieces' ∧ fields = fields' ∧ rest = rest') ∧
      (∀ m, decodeKnown frame = .ok m ↔ decode frame = .ok m ∧
        ∃ kind : MessageKind, Bytes.toNat (frame.take 2) = kind.typeId.toNat) ∧
      ∀ kind m, decodeAs kind frame = .ok m ↔ decode frame = .ok m ∧
        Bytes.toNat (frame.take 2) = kind.typeId.toNat := by
  -- The type number of a message that is decoded is the one at the front of the frame.
  have hkind : ∀ kind m, decode frame = .ok m →
      (m.kind? = some kind ↔ Bytes.toNat (frame.take 2) = kind.typeId.toNat) := by
    intro kind m hm
    rw [(spells_of_decode hm).toNat_take, UInt16.toNat_inj]
    exact MessageKind.ofTypeId?_eq_some_iff
  refine ⟨fun m => ⟨spells_of_decode, Spells.decode⟩, ?_, fun m => ?_, fun kind m => ?_⟩
  · intro kind pieces pieces' fields fields' rest rest' h h' hframe hframe'
    exact h.unique (kind_ne_remainder_of_mem_body kind) h' (hframe.symm.trans hframe')
  · rw [decodeKnown_eq_ok_iff, Option.isSome_iff_exists]
    exact and_congr_right fun hm => exists_congr fun kind => hkind kind m hm
  · rw [decodeAs_eq_ok_iff]
    exact and_congr_right (hkind kind m)

end ChannelGossip.Message
