import ChannelGossip.FrameLimits
import ChannelGossip.Proofs.Wire.Reading

/-! # Frames and messages

Decoding a frame and encoding a message undo each other.  A frame is accepted exactly if it is the
encoding of a well-formed message whose id lists are canonical, and then it is that message which
is read.  Main statements:

* `Layout.read_eq_ok_iff`   fields are read exactly from the bytes of fields with that layout
* `Message.decode_eq_ok_iff`   a message is decoded exactly from its own encoding
* `Message.decodeKnown_eq_ok_iff`, `Message.decodeAs_eq_ok_iff`, `FrameLimits.accept_eq_ok_iff`
  the other readers accept a part of what `Message.decode` accepts and read the same message
* `Message.encode_of_read`   no reader loses a byte -/

namespace ChannelGossip

/-! ## Fields -/

/-- The bytes of fields in order. -/
def encodeFields (fields : List (Field × Value)) : Bytes := fields.flatMap fun f => f.2.encode

@[simp] theorem encodeFields_nil : encodeFields [] = [] := rfl

@[simp] theorem encodeFields_cons (f : Field × Value) (fields : List (Field × Value)) :
    encodeFields (f :: fields) = f.2.encode ++ encodeFields fields := rfl

namespace Layout

/-- The layout that fields spell. -/
def ofFields (fields : List (Field × Value)) : Layout := fields.map fun f => ⟨f.1, f.2.kind⟩

@[simp] theorem ofFields_nil : ofFields [] = [] := rfl

@[simp] theorem ofFields_cons (f : Field × Value) (fields : List (Field × Value)) :
    ofFields (f :: fields) = ⟨f.1, f.2.kind⟩ :: ofFields fields := rfl

/-- `Layout.read` reads fields exactly from what `encodeFields` writes for them, if they are
    canonical and spell the layout.  By `hlayout` no slot takes all the rest. -/
theorem read_eq_ok_iff {layout : Layout} (hlayout : ∀ slot ∈ layout, slot.kind ≠ .remainder)
    {bs rest : Bytes} {fields : List (Field × Value)} :
    layout.read bs = .ok (fields, rest) ↔
      ofFields fields = layout ∧ (∀ f ∈ fields, f.2.IsCanonical) ∧
        bs = encodeFields fields ++ rest := by
  -- Each slot takes its value off the front and leaves the rest to the slots after it.
  induction layout generalizing bs fields with
  | nil =>
    simp only [Layout.read, Except.ok.injEq, Prod.mk.injEq]
    constructor
    · intro h
      obtain ⟨rfl, rfl⟩ := h
      simp
    · intro h
      obtain ⟨hfields, -, rfl⟩ := h
      have hnil : fields = [] := by simpa [ofFields] using hfields
      simp [hnil]
  | cons slot layout ih =>
    have hslot : slot.kind ≠ .remainder := hlayout slot List.mem_cons_self
    have ih := @ih fun s hs => hlayout s (List.mem_cons_of_mem _ hs)
    simp only [Layout.read, Except.bind_eq_ok_iff, Except.mapError_eq_ok_iff, pure, Except.pure,
      Except.ok.injEq, Prod.mk.injEq]
    constructor
    · intro h
      obtain ⟨⟨v, bs₁⟩, hread, ⟨fields₁, rest₁⟩, hrest, rfl, rfl⟩ := h
      obtain ⟨hkind, hcanonical, rfl⟩ := (Kind.read_eq_ok_iff hslot).1 hread
      obtain ⟨rfl, hall, rfl⟩ := ih.1 hrest
      refine ⟨?_, ?_, ?_⟩
      · simp [hkind]
      · simpa using ⟨hcanonical, fun a b h => hall (a, b) h⟩
      · rw [encodeFields_cons, List.append_assoc]
    · intro h
      obtain ⟨hfields, hall, rfl⟩ := h
      -- The layout has a slot in front, so there is a field for it.
      cases fields with
      | nil => simp at hfields
      | cons f fields =>
        simp only [ofFields_cons, List.cons.injEq] at hfields
        obtain ⟨rfl, rfl⟩ := hfields
        refine ⟨(f.2, encodeFields fields ++ rest), ?_, (fields, rest), ?_, rfl, rfl⟩
        · rw [Kind.read_eq_ok_iff hslot, encodeFields_cons, List.append_assoc]
          exact ⟨rfl, hall f List.mem_cons_self, rfl⟩
        · exact ih.2 ⟨rfl, fun g hg => hall g (List.mem_cons_of_mem _ hg), rfl⟩

/-- No layout of `ofTypeId` has a slot for the remainder, which is what follows the last slot. -/
theorem kind_ne_remainder {id : UInt16} {slot : Slot} (h : slot ∈ ofTypeId id) :
    slot.kind ≠ .remainder := by
  unfold ofTypeId at h
  split at h
  · -- The layouts of the catalogue are gone through one by one.
    rename_i kind _
    revert slot
    cases kind <;> decide
  · simp only [unknown, typeSlot, List.mem_singleton] at h
    simp [h]

/-- Every layout of `ofTypeId` starts with `typeSlot`. -/
theorem ofTypeId_eq_cons (id : UInt16) : ∃ body, ofTypeId id = typeSlot :: body := by
  unfold ofTypeId
  split
  · exact ⟨_, rfl⟩
  · exact ⟨[], rfl⟩

end Layout

/-! ## The type number -/

/-- `peekType` finds the type number that the first two bytes of a frame spell. -/
theorem peekType_eq_ok_iff {frame : Bytes} {id : UInt16} :
    peekType frame = .ok id ↔ ∃ rest, frame = Bytes.ofNat 2 id.toNat ++ rest := by
  simp only [peekType, Except.bind_eq_ok_iff, Except.mapError_eq_ok_iff, pure, Except.pure,
    Except.ok.injEq]
  constructor
  · intro h
    obtain ⟨⟨n, rest⟩, htake, rfl⟩ := h
    obtain ⟨hlt, hframe⟩ := takeNat_eq_ok_iff.1 htake
    -- It looks at two bytes only, and what is behind them is part of the rest.
    refine ⟨rest ++ frame.drop 2, ?_⟩
    rw [UInt16.toNat_ofNat_of_lt' hlt, ← List.append_assoc, ← hframe, List.take_append_drop]
  · intro h
    obtain ⟨rest, rfl⟩ := h
    refine ⟨(id.toNat, []), takeNat_eq_ok_iff.2 ⟨id.toNat_lt, ?_⟩, UInt16.ofNat_toNat⟩
    rw [List.take_left' (Bytes.length_ofNat 2 _), List.append_nil]

/-- A frame has one type number. -/
theorem ofNat_two_inj {a b : UInt16} {as bs : Bytes}
    (h : Bytes.ofNat 2 a.toNat ++ as = Bytes.ofNat 2 b.toNat ++ bs) : a = b := by
  have ha : peekType (Bytes.ofNat 2 a.toNat ++ as) = .ok a := peekType_eq_ok_iff.2 ⟨as, rfl⟩
  have hb : peekType (Bytes.ofNat 2 b.toNat ++ bs) = .ok b := peekType_eq_ok_iff.2 ⟨bs, rfl⟩
  rw [h, hb] at ha
  exact (Except.ok.inj ha).symm

/-! ## Messages -/

@[simp] theorem getD_nonEmpty (bytes : Bytes) : (nonEmpty bytes).getD [] = bytes := by
  cases bytes with
  | nil => rfl
  | cons b bytes => rfl

@[simp] theorem nonEmpty_ne_some_nil (bytes : Bytes) : nonEmpty bytes ≠ some [] := by
  cases bytes with
  | nil => simp [nonEmpty]
  | cons b bytes => simp [nonEmpty]

/-- `nonEmpty` gives a remainder back from its bytes, if it is not the empty string. -/
theorem nonEmpty_getD {r : Option Bytes} (h : r ≠ some []) : nonEmpty (r.getD []) = r := by
  rcases r with _ | _ | ⟨b, bytes⟩
  · rfl
  · exact absurd rfl h
  · rfl

namespace Message

/-- A message whose parts agree: it has one value of the right kind for each slot of the layout that
    goes with its type number, the first of them is that number, and its remainder, if it has one,
    is not empty. -/
structure WellFormed (m : Message) : Prop where
  layout_eq : Layout.ofFields m.fields = Layout.ofTypeId m.typeId
  head_eq : m.fields.head? = some (.type, .messageType m.typeId)
  remainder_ne : m.remainder ≠ some []

/-- A message whose id lists can all be told from their bytes. -/
def IsCanonical (m : Message) : Prop := ∀ f ∈ m.fields, f.2.IsCanonical

theorem encode_eq (m : Message) : m.encode = encodeFields m.fields ++ m.remainder.getD [] := rfl

/-- What `encode` writes for a well-formed message starts with its type number. -/
theorem WellFormed.peekType_encode {m : Message} (h : m.WellFormed) :
    peekType m.encode = .ok m.typeId := by
  rw [peekType_eq_ok_iff]
  obtain ⟨fields, hfields⟩ := List.head?_eq_some_iff.1 h.head_eq
  exact ⟨encodeFields fields ++ m.remainder.getD [], by
    rw [encode_eq, hfields, encodeFields_cons, List.append_assoc]; rfl⟩

/-- The check of `readAs` for bytes left after the remainder never fires: `takeRemainder` leaves
    none, and a frame that ends with its last field has none to begin with. -/
theorem readAs_eq (layout : Layout) (frame : Bytes) :
    readAs layout frame = (do
      let typeId ← peekType frame
      let (fields, rest) ← layout.read frame
      return ⟨typeId, fields, nonEmpty rest⟩) := by
  unfold readAs
  cases peekType frame with
  | error e => rfl
  | ok typeId =>
    cases layout.read frame with
    | error e => rfl
    | ok read =>
      obtain ⟨fields, rest⟩ := read
      -- There is a remainder exactly if something is left.
      cases rest with
      | nil => rfl
      | cons b rest => rfl

/-- Under the layout of its type number a message is read by `readAs` exactly from what `encode`
    writes for it, and what is read is well-formed and canonical. -/
theorem readAs_eq_ok_iff {id : UInt16} {frame : Bytes} {m : Message}
    (hpeek : peekType frame = .ok id) :
    readAs (Layout.ofTypeId id) frame = .ok m ↔
      m.typeId = id ∧ m.WellFormed ∧ m.IsCanonical ∧ frame = m.encode := by
  simp only [readAs_eq, Except.bind_eq_ok_iff, pure, Except.pure, Except.ok.injEq]
  constructor
  · intro h
    obtain ⟨id', hpeek', ⟨fields, rest⟩, hread, rfl⟩ := h
    -- `readAs` looks at the type number once more and finds the same one.
    obtain rfl : id = id' := Except.ok.inj (hpeek.symm.trans hpeek')
    obtain ⟨hlayout, hcanonical, hframe⟩ :=
      (Layout.read_eq_ok_iff fun _ h => Layout.kind_ne_remainder h).1 hread
    refine ⟨rfl, ⟨hlayout, ?_, nonEmpty_ne_some_nil rest⟩, hcanonical, ?_⟩
    · -- The first slot is the type number's, and the bytes in it are those that were peeked at.
      obtain ⟨body, hbody⟩ := Layout.ofTypeId_eq_cons id
      rw [hbody] at hlayout
      cases fields with
      | nil => simp at hlayout
      | cons f fields =>
        simp only [Layout.ofFields_cons, List.cons.injEq, Layout.typeSlot, Slot.mk.injEq] at hlayout
        obtain ⟨id', hid'⟩ := Value.kind_eq_messageType_iff.1 hlayout.1.2
        obtain ⟨rest', hrest'⟩ := peekType_eq_ok_iff.1 hpeek
        have hid : id' = id := by
          rw [hframe, encodeFields_cons, hid', List.append_assoc] at hrest'
          exact ofNat_two_inj hrest'
        rw [List.head?_cons, ← hlayout.1.1, ← hid, ← hid']
    · -- What is left behind the fields is the remainder.
      rw [encode_eq, getD_nonEmpty]
      exact hframe
  · intro h
    obtain ⟨rfl, hwf, hcanonical, rfl⟩ := h
    refine ⟨m.typeId, hpeek, (m.fields, m.remainder.getD []), ?_, ?_⟩
    · rw [Layout.read_eq_ok_iff fun _ h => Layout.kind_ne_remainder h]
      exact ⟨hwf.layout_eq, hcanonical, rfl⟩
    · rw [nonEmpty_getD hwf.remainder_ne]

/-- `decode` reads a message exactly from what `encode` writes for it, and every message that it
    reads is well-formed and canonical. -/
theorem decode_eq_ok_iff {frame : Bytes} {m : Message} :
    decode frame = .ok m ↔ m.WellFormed ∧ m.IsCanonical ∧ frame = m.encode := by
  simp only [decode, Except.bind_eq_ok_iff]
  constructor
  · intro h
    obtain ⟨id, hpeek, hread⟩ := h
    exact ((readAs_eq_ok_iff hpeek).1 hread).2
  · intro h
    obtain ⟨hwf, hcanonical, rfl⟩ := h
    have hpeek := hwf.peekType_encode
    exact ⟨m.typeId, hpeek, (readAs_eq_ok_iff hpeek).2 ⟨rfl, hwf, hcanonical, rfl⟩⟩

/-- `decode` undoes `encode` exactly for well-formed, canonical messages. -/
theorem decode_encode_iff {m : Message} :
    decode m.encode = .ok m ↔ m.WellFormed ∧ m.IsCanonical := by
  rw [decode_eq_ok_iff]
  simp

/-- The type number that `peekType` finds is that of the message which `decode` reads. -/
private theorem peekType_of_decode {frame : Bytes} {m : Message} (h : decode frame = .ok m) :
    peekType frame = .ok m.typeId := by
  obtain ⟨hwf, -, rfl⟩ := decode_eq_ok_iff.1 h
  exact hwf.peekType_encode

/-- `decode` is `readAs` under the layout of the type number. -/
private theorem decode_eq_readAs {id : UInt16} {frame : Bytes} (h : peekType frame = .ok id) :
    decode frame = readAs (Layout.ofTypeId id) frame := by
  simp only [decode, h, bind, Except.bind]

/-- `decodeKnown` reads what `decode` reads, if that is a message of the catalogue. -/
theorem decodeKnown_eq_ok_iff {frame : Bytes} {m : Message} :
    decodeKnown frame = .ok m ↔ decode frame = .ok m ∧ m.kind?.isSome := by
  cases hpeek : peekType frame with
  | error e => simp [decodeKnown, decode, hpeek, bind, Except.bind]
  | ok id =>
    have hid : decode frame = .ok m → m.typeId = id := fun h =>
      Except.ok.inj ((peekType_of_decode h).symm.trans hpeek)
    -- Either the number is in the catalogue, and both readers take its layout, or it is refused.
    cases hkind : MessageKind.ofTypeId? id with
    | none =>
      -- A message of this type number is in no catalogue.
      have hnone : decode frame = .ok m → m.kind? = none := fun h => by rw [kind?, hid h, hkind]
      simp only [decodeKnown, hpeek, hkind, bind, Except.bind, throw, throwThe,
        MonadExceptOf.throw, reduceCtorEq, false_iff, not_and]
      intro h
      simp [hnone h]
    | some kind =>
      have hlayout : Layout.ofTypeId id = kind.layout := by simp [Layout.ofTypeId, hkind]
      have hsome : decode frame = .ok m → m.kind? = some kind := fun h => by
        rw [kind?, hid h, hkind]
      simp only [decodeKnown, hpeek, hkind, bind, Except.bind, ← hlayout, ← decode_eq_readAs hpeek]
      constructor
      · intro h
        exact ⟨h, by rw [hsome h]; rfl⟩
      · exact And.left

/-- `decodeAs kind` reads what `decode` reads, if that is a message of the given kind. -/
theorem decodeAs_eq_ok_iff {kind : MessageKind} {frame : Bytes} {m : Message} :
    decodeAs kind frame = .ok m ↔ decode frame = .ok m ∧ m.kind? = some kind := by
  cases hpeek : peekType frame with
  | error e => simp [decodeAs, decode, hpeek, bind, Except.bind]
  | ok id =>
    have hid : decode frame = .ok m → m.typeId = id := fun h =>
      Except.ok.inj ((peekType_of_decode h).symm.trans hpeek)
    -- With the right type number this is reading under the layout of the type number.
    by_cases hkind : id = kind.typeId
    · have hlayout : Layout.ofTypeId id = kind.layout := by
        rw [hkind, Layout.ofTypeId, MessageKind.ofTypeId?_typeId]
      have hsome : decode frame = .ok m → m.kind? = some kind := fun h => by
        rw [kind?, hid h, hkind, MessageKind.ofTypeId?_typeId]
      simp only [decodeAs, hpeek, bind, Except.bind, if_pos hkind, ← hlayout,
        ← decode_eq_readAs hpeek]
      constructor
      · intro h
        exact ⟨h, hsome h⟩
      · exact And.left
    · simp only [decodeAs, hpeek, bind, Except.bind, if_neg hkind, throw, throwThe,
        MonadExceptOf.throw, reduceCtorEq, false_iff, not_and]
      intro h hsome
      rw [kind?, hid h] at hsome
      exact hkind (MessageKind.ofTypeId?_eq_some_iff.1 hsome)

end Message

/-- `accept` reads what `decode` reads, if the frame is no longer than the limit and the message,
    where those outside the catalogue are refused, is in it. -/
theorem FrameLimits.accept_eq_ok_iff {limits : FrameLimits} {frame : Bytes} {m : Message} :
    limits.accept frame = .ok m ↔
      frame.length ≤ limits.maxMessageBytes ∧ Message.decode frame = .ok m ∧
        (limits.unknownMessages = .reject → m.kind?.isSome) := by
  unfold FrameLimits.accept
  by_cases hlength : frame.length > limits.maxMessageBytes
  · rw [if_pos hlength]
    simp only [reduceCtorEq, false_iff, not_and]
    omega
  · rw [if_neg hlength]
    cases limits.unknownMessages with
    | preserve => simp; omega
    | reject => simp [Message.decodeKnown_eq_ok_iff]; omega

namespace Message

/-- No reader loses a byte: a message, whether `decode`, `decodeKnown`, `decodeAs` or `accept` read
    it from `frame`, has one field for each slot of its layout and is written back by `encode` as
    that frame. -/
theorem encode_of_read (frame : Bytes) (m : Message)
    (h : decode frame = .ok m ∨ decodeKnown frame = .ok m ∨ (∃ kind, decodeAs kind frame = .ok m) ∨
      ∃ limits : FrameLimits, limits.accept frame = .ok m) :
    m.encode = frame ∧ Layout.ofFields m.fields = Layout.ofTypeId m.typeId := by
  -- All readers read what `decode` reads.
  have hdecode : decode frame = .ok m := by
    rcases h with h | h | ⟨kind, h⟩ | ⟨limits, h⟩
    · exact h
    · exact (decodeKnown_eq_ok_iff.1 h).1
    · exact (decodeAs_eq_ok_iff.1 h).1
    · exact (FrameLimits.accept_eq_ok_iff.1 h).2.1
  obtain ⟨hwf, -, hframe⟩ := decode_eq_ok_iff.1 hdecode
  exact ⟨hframe.symm, hwf.layout_eq⟩

/-- An id list in an encoding that nobody knows, followed by two bytes of a later protocol version,
    is written back with all of them. -/
theorem encode_of_read_unknown_encoding :
    let frame : Bytes := [1, 5] ++ ChainHash.bitcoin.bytes ++ [0, 3, 7, 1, 2, 9, 9]
    let m : Message :=
      { typeId := 261
        fields :=
          [(.type, .messageType 261), (.chainHash, .fixed ChainHash.bitcoin),
           (.encodedShortChannelIds, .idList ⟨.other 7, [1, 2]⟩)]
        remainder := some [9, 9] }
    FrameLimits.default.accept frame = .ok m ∧ m.encode = frame ∧
      Layout.ofFields m.fields = Layout.ofTypeId m.typeId := by
  intro frame m
  have haccept : FrameLimits.default.accept frame = .ok m := rfl
  exact ⟨haccept, encode_of_read frame m (.inr (.inr (.inr ⟨_, haccept⟩)))⟩

end Message

end ChannelGossip
