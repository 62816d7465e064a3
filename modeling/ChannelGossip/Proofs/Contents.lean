import ChannelGossip.Contents.Announcement
import ChannelGossip.Contents.Connection
import ChannelGossip.Contents.Query
import ChannelGossip.Proofs.Message.Framing

/-! # Typed contents and value lists

The structures for typed contents stand for exactly the value lists that fit the layout of their
kind.  `LawfulContents` states this and each of the eleven structures is an instance of it.  Main
statements:

* `Contents.wellFormed_toMessage`   contents make a well-formed message
* `Message.contents_toMessage`   which reads as the same contents
* `Message.WellFormed.exists_contents`   a well-formed message of the right kind has contents
* `Contents.encode_toMessage`, `Contents.decode_encode_toMessage`   its frame, and when the frame is
  read as the same message -/

namespace ChannelGossip

/-- Contents that stand for exactly the value lists that fit the layout of their kind. -/
class LawfulContents (α : Type) [Contents α] : Prop where
  kinds_values (a : α) : (Contents.values a).map Value.kind = (Contents.kind α).body.map Slot.kind
  ofValues?_values (a : α) : Contents.ofValues? (Contents.values a) = some a
  exists_values (vs : List Value)
    (h : vs.map Value.kind = (Contents.kind α).body.map Slot.kind) : ∃ a : α, vs = Contents.values a

/-! ## The eleven structures -/

instance : LawfulContents Init where
  kinds_values _ := rfl
  ofValues?_values _ := rfl
  exists_values vs h := by
    simp only [Contents.kind, MessageKind.body, List.map_cons, List.map_nil, List.map_eq_cons_iff,
      List.map_eq_nil_iff, Value.kind_eq_varBytes_iff] at h
    obtain ⟨_, _, rfl, ⟨a, rfl⟩, _, _, rfl, ⟨b, rfl⟩, rfl⟩ := h
    exact ⟨⟨a, b⟩, rfl⟩

instance : LawfulContents Ping where
  kinds_values _ := rfl
  ofValues?_values _ := rfl
  exists_values vs h := by
    simp only [Contents.kind, MessageKind.body, List.map_cons, List.map_nil, List.map_eq_cons_iff,
      List.map_eq_nil_iff, Value.kind_eq_u16_iff, Value.kind_eq_varBytes_iff] at h
    obtain ⟨_, _, rfl, ⟨a, rfl⟩, _, _, rfl, ⟨b, rfl⟩, rfl⟩ := h
    exact ⟨⟨a, b⟩, rfl⟩

instance : LawfulContents Pong where
  kinds_values _ := rfl
  ofValues?_values _ := rfl
  exists_values vs h := by
    simp only [Contents.kind, MessageKind.body, List.map_cons, List.map_nil, List.map_eq_cons_iff,
      List.map_eq_nil_iff, Value.kind_eq_varBytes_iff] at h
    obtain ⟨_, _, rfl, ⟨a, rfl⟩, rfl⟩ := h
    exact ⟨⟨a⟩, rfl⟩

instance : LawfulContents ChannelAnnouncement where
  kinds_values _ := rfl
  ofValues?_values _ := rfl
  exists_values vs h := by
    simp only [Contents.kind, MessageKind.body, List.map_cons, List.map_nil, List.map_eq_cons_iff,
      List.map_eq_nil_iff, Value.kind_eq_fixed_iff, Value.kind_eq_varBytes_iff,
      Value.kind_eq_shortChannelId_iff] at h
    obtain ⟨_, _, rfl, ⟨a, rfl⟩, _, _, rfl, ⟨b, rfl⟩, _, _, rfl, ⟨c, rfl⟩, _, _, rfl, ⟨d, rfl⟩,
      _, _, rfl, ⟨e, rfl⟩, _, _, rfl, ⟨f, rfl⟩, _, _, rfl, ⟨g, rfl⟩, _, _, rfl, ⟨i, rfl⟩,
      _, _, rfl, ⟨j, rfl⟩, _, _, rfl, ⟨k, rfl⟩, _, _, rfl, ⟨l, rfl⟩, rfl⟩ := h
    exact ⟨⟨a, b, c, d, e, f, g, i, j, k, l⟩, rfl⟩

instance : LawfulContents NodeAnnouncement where
  kinds_values _ := rfl
  ofValues?_values _ := rfl
  exists_values vs h := by
    simp only [Contents.kind, MessageKind.body, List.map_cons, List.map_nil, List.map_eq_cons_iff,
      List.map_eq_nil_iff, Value.kind_eq_fixed_iff, Value.kind_eq_varBytes_iff,
      Value.kind_eq_u32_iff] at h
    obtain ⟨_, _, rfl, ⟨a, rfl⟩, _, _, rfl, ⟨b, rfl⟩, _, _, rfl, ⟨c, rfl⟩, _, _, rfl, ⟨d, rfl⟩,
      _, _, rfl, ⟨e, rfl⟩, _, _, rfl, ⟨f, rfl⟩, _, _, rfl, ⟨g, rfl⟩, rfl⟩ := h
    exact ⟨⟨a, b, c, d, e, f, g⟩, rfl⟩

instance : LawfulContents ChannelUpdate where
  kinds_values _ := rfl
  ofValues?_values _ := rfl
  exists_values vs h := by
    simp only [Contents.kind, MessageKind.body, List.map_cons, List.map_nil, List.map_eq_cons_iff,
      List.map_eq_nil_iff, Value.kind_eq_fixed_iff, Value.kind_eq_shortChannelId_iff,
      Value.kind_eq_u8_iff, Value.kind_eq_u16_iff, Value.kind_eq_u32_iff,
      Value.kind_eq_u64_iff] at h
    obtain ⟨_, _, rfl, ⟨a, rfl⟩, _, _, rfl, ⟨b, rfl⟩, _, _, rfl, ⟨c, rfl⟩, _, _, rfl, ⟨d, rfl⟩,
      _, _, rfl, ⟨e, rfl⟩, _, _, rfl, ⟨f, rfl⟩, _, _, rfl, ⟨g, rfl⟩, _, _, rfl, ⟨i, rfl⟩,
      _, _, rfl, ⟨j, rfl⟩, _, _, rfl, ⟨k, rfl⟩, _, _, rfl, ⟨l, rfl⟩, rfl⟩ := h
    exact ⟨⟨a, b, c, d, e, f, g, i, j, k, l⟩, rfl⟩

instance : LawfulContents QueryShortChannelIds where
  kinds_values _ := rfl
  ofValues?_values _ := rfl
  exists_values vs h := by
    simp only [Contents.kind, MessageKind.body, List.map_cons, List.map_nil, List.map_eq_cons_iff,
      List.map_eq_nil_iff, Value.kind_eq_fixed_iff, Value.kind_eq_idList_iff] at h
    obtain ⟨_, _, rfl, ⟨a, rfl⟩, _, _, rfl, ⟨b, rfl⟩, rfl⟩ := h
    exact ⟨⟨a, b⟩, rfl⟩

instance : LawfulContents ReplyShortChannelIds where
  kinds_values _ := rfl
  ofValues?_values _ := rfl
  exists_values vs h := by
    simp only [Contents.kind, MessageKind.body, List.map_cons, List.map_nil, List.map_eq_cons_iff,
      List.map_eq_nil_iff, Value.kind_eq_fixed_iff, Value.kind_eq_u8_iff] at h
    obtain ⟨_, _, rfl, ⟨a, rfl⟩, _, _, rfl, ⟨b, rfl⟩, rfl⟩ := h
    exact ⟨⟨a, b⟩, rfl⟩

instance : LawfulContents QueryChannelRange where
  kinds_values _ := rfl
  ofValues?_values _ := rfl
  exists_values vs h := by
    simp only [Contents.kind, MessageKind.body, List.map_cons, List.map_nil, List.map_eq_cons_iff,
      List.map_eq_nil_iff, Value.kind_eq_fixed_iff, Value.kind_eq_u32_iff] at h
    obtain ⟨_, _, rfl, ⟨a, rfl⟩, _, _, rfl, ⟨b, rfl⟩, _, _, rfl, ⟨c, rfl⟩, rfl⟩ := h
    exact ⟨⟨a, b, c⟩, rfl⟩

instance : LawfulContents ReplyChannelRange where
  kinds_values _ := rfl
  ofValues?_values _ := rfl
  exists_values vs h := by
    simp only [Contents.kind, MessageKind.body, List.map_cons, List.map_nil, List.map_eq_cons_iff,
      List.map_eq_nil_iff, Value.kind_eq_fixed_iff, Value.kind_eq_u32_iff, Value.kind_eq_u8_iff,
      Value.kind_eq_idList_iff] at h
    obtain ⟨_, _, rfl, ⟨a, rfl⟩, _, _, rfl, ⟨b, rfl⟩, _, _, rfl, ⟨c, rfl⟩, _, _, rfl, ⟨d, rfl⟩,
      _, _, rfl, ⟨e, rfl⟩, rfl⟩ := h
    exact ⟨⟨a, b, c, d, e⟩, rfl⟩

instance : LawfulContents GossipTimestampFilter where
  kinds_values _ := rfl
  ofValues?_values _ := rfl
  exists_values vs h := by
    simp only [Contents.kind, MessageKind.body, List.map_cons, List.map_nil, List.map_eq_cons_iff,
      List.map_eq_nil_iff, Value.kind_eq_fixed_iff, Value.kind_eq_u32_iff] at h
    obtain ⟨_, _, rfl, ⟨a, rfl⟩, _, _, rfl, ⟨b, rfl⟩, _, _, rfl, ⟨c, rfl⟩, rfl⟩ := h
    exact ⟨⟨a, b, c⟩, rfl⟩

/-! ## Assembled messages -/

/-- Values put into slots of their kinds spell those slots. -/
private theorem ofFields_zip {layout : Layout} {vs : List Value}
    (h : vs.map Value.kind = layout.map Slot.kind) :
    Layout.ofFields ((layout.map Slot.field).zip vs) = layout := by
  induction layout generalizing vs with
  | nil => rfl
  | cons slot layout ih =>
    cases vs with
    | nil => simp at h
    | cons v vs =>
      simp only [List.map_cons, List.cons.injEq] at h
      rw [List.map_cons, List.zip_cons_cons, Layout.ofFields_cons, ih h.2, h.1]

/-- `assemble` makes a well-formed message of values of the right kinds. -/
theorem Message.wellFormed_assemble {kind : MessageKind} {vs : List Value}
    (h : vs.map Value.kind = kind.body.map Slot.kind) : (assemble kind vs).WellFormed where
  layout_eq := by
    show Layout.typeSlot :: Layout.ofFields ((kind.body.map Slot.field).zip vs) = _
    rw [ofFields_zip h]
    simp only [assemble, Layout.ofTypeId, MessageKind.ofTypeId?_typeId]
    rfl
  head_eq := rfl
  remainder_ne := by simp [assemble]

/-- The values of an assembled message are those it was assembled from. -/
theorem Message.values_assemble {kind : MessageKind} {vs : List Value}
    (h : vs.map Value.kind = kind.body.map Slot.kind) :
    (assemble kind vs).fields.tail.map Prod.snd = vs := by
  have hlength : vs.length ≤ (kind.body.map Slot.field).length := by
    rw [List.length_map, ← List.length_map (f := Value.kind), h, List.length_map]
  show ((kind.body.map Slot.field).zip vs).map Prod.snd = vs
  exact List.map_snd_zip hlength

/-! ## Contents of messages -/

variable {α : Type} [Contents α]

@[simp] theorem Contents.kind?_toMessage (a : α) :
    (Contents.toMessage a).kind? = some (Contents.kind α) :=
  MessageKind.ofTypeId?_typeId _

/-- `contents` reads messages of the right kind only. -/
theorem Message.kind?_of_contents {m : Message} {a : α} (h : m.contents α = .ok a) :
    m.kind? = some (Contents.kind α) := by
  unfold contents at h
  by_cases hkind : m.kind? = some (Contents.kind α)
  · exact hkind
  · rw [if_pos hkind] at h
    cases h

/-- In a well-formed message of a kind, the fields after the type number are those of
    `MessageKind.body`. -/
theorem Message.WellFormed.exists_fields {m : Message} {kind : MessageKind} (h : m.WellFormed)
    (hkind : m.kind? = some kind) :
    ∃ fields, m.fields = (.type, .messageType m.typeId) :: fields ∧
      Layout.ofFields fields = kind.body := by
  have hlayout : Layout.ofTypeId m.typeId = Layout.typeSlot :: kind.body := by
    have htype : MessageKind.ofTypeId? m.typeId = some kind := hkind
    simp only [Layout.ofTypeId, htype]
    rfl
  obtain ⟨fields, hfields⟩ := List.head?_eq_some_iff.1 h.head_eq
  have heq := h.layout_eq
  rw [hlayout, hfields, Layout.ofFields_cons] at heq
  exact ⟨fields, hfields, (List.cons.inj heq).2⟩

/-- `assemble` makes a well-formed message again from its values, but for its remainder. -/
theorem Message.WellFormed.assemble_values {m : Message} {kind : MessageKind} (h : m.WellFormed)
    (hkind : m.kind? = some kind) :
    assemble kind (m.fields.tail.map Prod.snd) = { m with remainder := none } := by
  obtain ⟨fields, hfields, hbody⟩ := h.exists_fields hkind
  have htype : kind.typeId = m.typeId := MessageKind.typeId_of_ofTypeId? hkind
  have hnames : kind.body.map Slot.field = fields.map Prod.fst := by
    rw [← hbody, Layout.ofFields, List.map_map]
    rfl
  -- Names and values are put together as they were taken apart.
  have hzip : (fields.map Prod.fst).zip (fields.map Prod.snd) = fields := by
    rw [List.zip_map', List.map_id']
  rw [assemble, hfields, List.tail_cons, hnames, hzip, htype]

variable [LawfulContents α]

/-- `toMessage` makes a well-formed message. -/
theorem Contents.wellFormed_toMessage (a : α) : (Contents.toMessage a).WellFormed :=
  Message.wellFormed_assemble (LawfulContents.kinds_values a)

/-- `contents` reads the contents whose values are in the message. -/
theorem Message.contents_of_values {m : Message} {a : α}
    (hkind : m.kind? = some (Contents.kind α))
    (hvalues : m.fields.tail.map Prod.snd = Contents.values a) : m.contents α = .ok a := by
  simp only [contents, hkind, hvalues, LawfulContents.ofValues?_values, ne_eq, not_true_eq_false,
    if_false]

/-- `contents` undoes `toMessage`. -/
@[simp] theorem Message.contents_toMessage (a : α) : (Contents.toMessage a).contents α = .ok a :=
  contents_of_values (Contents.kind?_toMessage a) (values_assemble (LawfulContents.kinds_values a))

/-- The values of a well-formed message are those of contents of its kind. -/
theorem Message.WellFormed.exists_values {m : Message} (h : m.WellFormed)
    (hkind : m.kind? = some (Contents.kind α)) :
    ∃ a : α, m.fields.tail.map Prod.snd = Contents.values a := by
  obtain ⟨fields, hfields, hbody⟩ := h.exists_fields hkind
  have hkinds : (fields.map Prod.snd).map Value.kind = (Contents.kind α).body.map Slot.kind := by
    rw [← hbody, Layout.ofFields, List.map_map, List.map_map]
    rfl
  rw [hfields, List.tail_cons]
  exact LawfulContents.exists_values _ hkinds

/-- `contents` reads every well-formed message of the right kind. -/
theorem Message.WellFormed.exists_contents {m : Message} (h : m.WellFormed)
    (hkind : m.kind? = some (Contents.kind α)) : ∃ a : α, m.contents α = .ok a := by
  obtain ⟨a, ha⟩ := h.exists_values hkind
  exact ⟨a, contents_of_values hkind ha⟩

/-- The values of a canonical message are canonical, also as those of its contents. -/
theorem Message.WellFormed.isCanonical_of_contents {m : Message} (h : m.WellFormed)
    (hcanonical : m.IsCanonical) {a : α} (ha : m.contents α = .ok a) {v : Value}
    (hv : v ∈ Contents.values a) : v.IsCanonical := by
  have hkind : m.kind? = some (Contents.kind α) := kind?_of_contents ha
  obtain ⟨a', ha'⟩ := h.exists_values hkind
  -- No other contents have the values of the message.
  obtain rfl : a' = a := Except.ok.inj ((contents_of_values hkind ha').symm.trans ha)
  rw [← ha'] at hv
  obtain ⟨f, hf, rfl⟩ := List.mem_map.1 hv
  exact hcanonical f (List.mem_of_mem_tail hf)

/-! ## Frames of contents -/

/-- The bytes of values in `fields`, of which there are enough. -/
private theorem encodeFields_zip {fields : List Field} {vs : List Value}
    (h : vs.length ≤ fields.length) : encodeFields (fields.zip vs) = vs.flatMap Value.encode := by
  have hsnd : ((fields.zip vs).map Prod.snd).flatMap Value.encode = vs.flatMap Value.encode := by
    rw [List.map_snd_zip h]
  rw [List.flatMap_map] at hsnd
  exact hsnd

/-- The frame of contents is the type number followed by their values. -/
theorem Contents.encode_toMessage (a : α) : (Contents.toMessage a).encode =
    Bytes.ofNat 2 (Contents.kind α).typeId.toNat ++ (Contents.values a).flatMap Value.encode := by
  have hlength : (Contents.values a).length ≤ ((Contents.kind α).body.map Slot.field).length := by
    have hkinds := congrArg List.length (LawfulContents.kinds_values a)
    rw [List.length_map, List.length_map] at hkinds
    rw [List.length_map, hkinds]
  show encodeFields (_ :: List.zip _ _) ++ [] = _
  rw [encodeFields_cons, encodeFields_zip hlength, List.append_nil]
  rfl

/-- `decode` reads the frame of contents as their message, if every id list in them is canonical. -/
theorem Contents.decode_encode_toMessage {a : α}
    (h : ∀ list, Value.idList list ∈ Contents.values a → list.IsCanonical) :
    Message.decode (Contents.toMessage a).encode = .ok (Contents.toMessage a) := by
  refine Message.decode_encode_iff.2 ⟨Contents.wellFormed_toMessage a, fun f hf => ?_⟩
  -- The first field is the type number, and the others hold the values.
  rcases List.mem_cons.1 hf with rfl | hf
  · trivial
  · obtain ⟨field, v⟩ := f
    have hv : v ∈ Contents.values a := (List.of_mem_zip hf).2
    cases v with
    | idList list => exact h list hv
    | _ => trivial

/-- A pong has 4 bytes besides its payload. -/
theorem Contents.length_encode_pong (p : Pong) :
    (Contents.toMessage p).encode.length = 4 + p.pongBytes.bytes.length := by
  rw [Contents.encode_toMessage]
  simp only [Contents.values, List.flatMap_cons, List.flatMap_nil, Value.encode, VarBytes.encode,
    List.length_append, List.length_nil, Bytes.length_ofNat]
  omega

/-- A range query has 42 bytes. -/
theorem Contents.length_encode_queryChannelRange (q : QueryChannelRange) :
    (Contents.toMessage q).encode.length = 42 := by
  rw [Contents.encode_toMessage]
  simp only [Contents.values, List.flatMap_cons, List.flatMap_nil, Value.encode, List.length_append,
    List.length_nil, Bytes.length_ofNat, q.chainHash.length_eq, FixedKind.width]

/-- A query by id has 37 bytes besides the ids. -/
theorem Contents.length_encode_queryShortChannelIds (q : QueryShortChannelIds) :
    (Contents.toMessage q).encode.length = 37 + q.ids.body.length := by
  rw [Contents.encode_toMessage]
  simp only [Contents.values, List.flatMap_cons, List.flatMap_nil, Value.encode, IdList.encode,
    List.length_append, List.length_cons, List.length_nil, Bytes.length_ofNat,
    q.chainHash.length_eq, FixedKind.width]
  omega

/-- A part of an answer to a range query has 46 bytes besides the ids. -/
theorem Contents.length_encode_replyChannelRange (r : ReplyChannelRange) :
    (Contents.toMessage r).encode.length = 46 + r.ids.body.length := by
  rw [Contents.encode_toMessage]
  simp only [Contents.values, List.flatMap_cons, List.flatMap_nil, Value.encode, IdList.encode,
    List.length_append, List.length_cons, List.length_nil, Bytes.length_ofNat,
    r.chainHash.length_eq, FixedKind.width]
  omega

/-- The end of an answer to a query by id has 35 bytes. -/
theorem Contents.length_encode_replyShortChannelIds (r : ReplyShortChannelIds) :
    (Contents.toMessage r).encode.length = 35 := by
  rw [Contents.encode_toMessage]
  simp only [Contents.values, List.flatMap_cons, List.flatMap_nil, Value.encode, List.length_append,
    List.length_cons, List.length_nil, Bytes.length_ofNat, r.chainHash.length_eq, FixedKind.width]

end ChannelGossip
