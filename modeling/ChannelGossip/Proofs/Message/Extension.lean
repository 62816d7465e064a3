import ChannelGossip.Proofs.Message.Framing
import ChannelGossip.Proofs.Wire.Extension
import Mathlib.Data.List.Nodup

/-! # Frames that grow

A frame that is cut short is told from one that is bad.  More bytes after a message go into its
remainder, a malformation stays, and a frame that has ended too early names the field in which it
ended and how many bytes there should be from there on.  Main statements:

* `Message.Reaches`   how far into the layout of a frame its reader gets
* `Message.decode_eq_error_iff`   the reader fails exactly where the slot it has reached fails
* `Message.Reaches.of_decode`   what a longer frame asks for is never in an earlier field
* `Message.decode_append`   what more bytes, and fewer, do to each answer -/

namespace ChannelGossip

namespace Layout

/-- The fields in front of a field. -/
def fieldsBefore (layout : Layout) (field : Field) : List Field :=
  (layout.map Slot.field).takeWhile (· ≠ field)

/-- The fields of `ofFields` are those that it is made of. -/
@[simp] theorem map_field_ofFields (fields : List (Field × Value)) :
    (ofFields fields).map Slot.field = fields.map Prod.fst := by
  rw [ofFields, List.map_map]
  rfl

@[simp] theorem ofFields_append (fields fields' : List (Field × Value)) :
    ofFields (fields ++ fields') = ofFields fields ++ ofFields fields' :=
  List.map_append

/-- No layout of `ofTypeId` names a field twice. -/
theorem nodup_fields_ofTypeId (id : UInt16) : ((ofTypeId id).map Slot.field).Nodup := by
  unfold ofTypeId
  split
  · exact (MessageKind.nodup_fields _).1
  · exact List.nodup_singleton _

/-- In a layout that names no field twice the place of a field is told by its name. -/
theorem append_cons_inj {before before' later later' : Layout} {slot slot' : Slot}
    (hnodup : ((before ++ slot :: later).map Slot.field).Nodup)
    (h : before ++ slot :: later = before' ++ slot' :: later') (hfield : slot.field = slot'.field) :
    before = before' ∧ slot = slot' ∧ later = later' := by
  have hslot : slot = slot' :=
    List.inj_on_of_nodup_map hnodup (by simp) (by rw [h]; simp) hfield
  subst hslot
  -- The slot occurs once, so the slots on both sides of it are the same.
  have hslots : slot ∉ before ++ later :=
    (List.nodup_middle.1 (List.Nodup.of_map _ hnodup)).notMem
  obtain ⟨hbefore, -, hlater⟩ := (List.append_cons_inj_of_notMem
    (hslots ∘ List.mem_append_left _) (hslots ∘ List.mem_append_right _)).1 h
  exact ⟨hbefore, rfl, hlater⟩

/-- `fieldsBefore` finds the fields in front of a slot whose field is named once. -/
theorem fieldsBefore_append_cons {before later : Layout} {slot : Slot}
    (h : ((before ++ slot :: later).map Slot.field).Nodup) :
    fieldsBefore (before ++ slot :: later) slot.field = before.map Slot.field := by
  rw [List.map_append, List.map_cons] at h
  have hbefore : ∀ field ∈ before.map Slot.field, (field ≠ slot.field : Bool) = true := by
    intro field hfield
    rw [decide_eq_true_iff]
    rintro rfl
    exact (List.nodup_middle.1 h).notMem (List.mem_append_left _ hfield)
  rw [fieldsBefore, List.map_append, List.map_cons, List.takeWhile_append_of_pos hbefore,
    List.takeWhile_cons_of_neg (by simp), List.append_nil]

/-- `Layout.read` fails exactly if the reader of a slot does after all slots before it were read. -/
theorem read_eq_error_iff {layout : Layout} (hlayout : ∀ slot ∈ layout, slot.kind ≠ .remainder)
    {bs : Bytes} {e : Error} :
    layout.read bs = .error e ↔
      ∃ fields slot later tail, layout = ofFields fields ++ slot :: later ∧
        (∀ f ∈ fields, f.2.IsCanonical) ∧ bs = encodeFields fields ++ tail ∧
        ∃ e', slot.kind.read tail = .error e' ∧ e'.atField slot.field = e := by
  -- Either the first slot fails, or it is read and one of those behind it fails.
  induction layout generalizing bs with
  | nil => simp [Layout.read]
  | cons slot layout ih =>
    obtain ⟨hslot, hlayout⟩ := List.forall_mem_cons.1 hlayout
    have ih := @ih hlayout
    simp only [Layout.read, Except.bind_eq_error_iff, Except.mapError_eq_error_iff,
      Except.mapError_eq_ok_iff, pure, Except.pure, reduceCtorEq, and_false, exists_false, or_false]
    constructor
    · intro h
      -- Forwards: the slot that fails is this one or one behind it.
      obtain h | ⟨⟨v, bs₁⟩, hread, hrest⟩ := h
      · exact ⟨[], slot, layout, bs, rfl, List.forall_mem_nil _, rfl, h⟩
      · obtain ⟨hkind, hcanonical, rfl⟩ := (Kind.read_eq_ok_iff hslot).1 hread
        obtain ⟨fields, stop, later, tail, rfl, hall, rfl, he⟩ := ih.1 hrest
        refine ⟨(slot.field, v) :: fields, stop, later, tail, ?_,
          List.forall_mem_cons.2 ⟨hcanonical, hall⟩, ?_, he⟩
        · rw [ofFields_cons, hkind]
          rfl
        · rw [encodeFields_cons, List.append_assoc]
    · intro h
      obtain ⟨fields, stop, later, tail, hfields, hall, rfl, he⟩ := h
      -- Backwards: nothing was read before it, or one field at least.
      cases fields with
      | nil =>
        obtain ⟨rfl, rfl⟩ := List.cons.inj hfields
        exact .inl he
      | cons f fields =>
        obtain ⟨rfl, rfl⟩ := List.cons.inj hfields
        obtain ⟨hcanonical, hall⟩ := List.forall_mem_cons.1 hall
        refine .inr ⟨(f.2, encodeFields fields ++ tail), ?_, ?_⟩
        · rw [Kind.read_eq_ok_iff hslot, encodeFields_cons, List.append_assoc]
          exact ⟨rfl, hcanonical, rfl⟩
        · exact ih.2 ⟨fields, stop, later, tail, rfl, hall, rfl, he⟩

end Layout

@[simp] theorem encodeFields_append (fields fields' : List (Field × Value)) :
    encodeFields (fields ++ fields') = encodeFields fields ++ encodeFields fields' :=
  List.flatMap_append

/-- Canonical fields of one layout are told from the front of a string. -/
theorem encodeFields_append_inj {fields fields' : List (Field × Value)} {tail tail' : Bytes}
    (hlayout : ∀ slot ∈ Layout.ofFields fields, slot.kind ≠ .remainder)
    (hfields : Layout.ofFields fields = Layout.ofFields fields')
    (hcanonical : ∀ f ∈ fields, f.2.IsCanonical) (hcanonical' : ∀ f ∈ fields', f.2.IsCanonical)
    (h : encodeFields fields ++ tail = encodeFields fields' ++ tail') :
    fields = fields' ∧ tail = tail' := by
  -- `Layout.read` finds the fields, and it finds one result only.
  have hread : (Layout.ofFields fields).read (encodeFields fields ++ tail) = .ok (fields, tail) :=
    (Layout.read_eq_ok_iff hlayout).2 ⟨rfl, hcanonical, rfl⟩
  rw [(Layout.read_eq_ok_iff hlayout).2 ⟨hfields.symm, hcanonical', h⟩, Except.ok.injEq,
    Prod.mk.injEq] at hread
  exact ⟨hread.1.symm, hread.2.symm⟩

/-- `peekType` fails exactly on frames of less than two bytes. -/
theorem peekType_eq_error_iff {frame : Bytes} {e : Error} :
    peekType frame = .error e ↔
      frame.length < 2 ∧ e = .underflow (some .type) 2 frame.length := by
  simp only [peekType, Except.bind_eq_error_iff, Except.mapError_eq_error_iff,
    takeNat_eq_error_iff, List.length_take, pure, Except.pure, reduceCtorEq, and_false,
    exists_false, or_false]
  constructor
  · intro h
    obtain ⟨-, ⟨hlength, rfl⟩, rfl⟩ := h
    have hshort : frame.length < 2 := by omega
    rw [Nat.min_eq_right (by omega)]
    exact ⟨hshort, rfl⟩
  · intro h
    obtain ⟨hlength, rfl⟩ := h
    rw [Nat.min_eq_right (by omega)]
    exact ⟨_, ⟨hlength, rfl⟩, rfl⟩

namespace Message

/-- A reader that gets as far as `slot` in a frame's layout has `tail` left of the frame.  The type
    number is at the very front, whatever the frame; the other slots are known from it. -/
inductive Reaches : Bytes → Slot → Bytes → Prop where
  | type (frame : Bytes) : Reaches frame Layout.typeSlot frame
  | field {id : UInt16} {fields : List (Field × Value)} {slot : Slot} {later : Layout}
      {tail : Bytes} (peek_eq : peekType (encodeFields fields ++ tail) = .ok id)
      (layout_eq : Layout.ofTypeId id = Layout.ofFields fields ++ slot :: later)
      (canonical : ∀ f ∈ fields, f.2.IsCanonical) :
      Reaches (encodeFields fields ++ tail) slot tail

namespace Reaches

variable {frame tail tail' : Bytes} {slot slot' : Slot} {id : UInt16}

/-- Under a type number every slot is reached through the fields before it. -/
theorem exists_fields (hpeek : peekType frame = .ok id) (h : Reaches frame slot tail) :
    ∃ fields later, Layout.ofTypeId id = Layout.ofFields fields ++ slot :: later ∧
      (∀ f ∈ fields, f.2.IsCanonical) ∧ frame = encodeFields fields ++ tail := by
  cases h with
  | type =>
    obtain ⟨body, hbody⟩ := Layout.ofTypeId_eq_cons id
    exact ⟨[], body, hbody, List.forall_mem_nil _, rfl⟩
  | field peek_eq layout_eq canonical =>
    obtain rfl := Except.ok.inj (peek_eq.symm.trans hpeek)
    exact ⟨_, _, layout_eq, canonical, rfl⟩

theorem kind_ne_remainder (h : Reaches frame slot tail) : slot.kind ≠ .remainder := by
  cases h with
  | type => exact nofun
  | field peek_eq layout_eq canonical =>
    exact Layout.kind_ne_remainder (layout_eq ▸ List.mem_append_right _ List.mem_cons_self)

/-- More bytes are left over where the reader is. -/
theorem append (h : Reaches frame slot tail) (more : Bytes) :
    Reaches (frame ++ more) slot (tail ++ more) := by
  cases h with
  | type => exact .type _
  | @field id fields _ _ _ peek_eq layout_eq canonical =>
    obtain ⟨rest, hrest⟩ := peekType_eq_ok_iff.1 peek_eq
    rw [List.append_assoc]
    refine .field ?_ layout_eq canonical
    rw [← List.append_assoc, hrest, List.append_assoc]
    exact peekType_eq_ok_iff.2 ⟨rest ++ more, rfl⟩

/-- A field is reached in one place only. -/
theorem unique (hpeek : peekType frame = .ok id) (h : Reaches frame slot tail)
    (h' : Reaches frame slot' tail') (hfield : slot.field = slot'.field) :
    slot = slot' ∧ tail = tail' := by
  obtain ⟨fields, later, hlayout, hcanonical, hframe⟩ := h.exists_fields hpeek
  obtain ⟨fields', later', hlayout', hcanonical', hframe'⟩ := h'.exists_fields hpeek
  -- The layout has one slot of this field, and the fields before it are read in one way.
  have hnodup := Layout.nodup_fields_ofTypeId id
  rw [hlayout] at hnodup
  obtain ⟨hfields, hslot, -⟩ :=
    Layout.append_cons_inj hnodup (hlayout.symm.trans hlayout') hfield
  have hkinds : ∀ s ∈ Layout.ofFields fields, s.kind ≠ .remainder := fun s hs =>
    Layout.kind_ne_remainder (hlayout ▸ List.mem_append_left _ hs)
  exact ⟨hslot,
    (encodeFields_append_inj hkinds hfields hcanonical hcanonical' (hframe.symm.trans hframe')).2⟩

/-- A slot before one that is reached was read. -/
theorem read_of_mem (hpeek : peekType frame = .ok id) (h : Reaches frame slot tail)
    (h' : Reaches frame slot' tail')
    (hfield : slot'.field ∈ (Layout.ofTypeId id).fieldsBefore slot.field) :
    ∃ p, slot'.kind.read tail' = .ok p := by
  obtain ⟨fields, later, hlayout, hcanonical, hframe⟩ := h.exists_fields hpeek
  have hnodup := Layout.nodup_fields_ofTypeId id
  rw [hlayout] at hfield hnodup
  rw [Layout.fieldsBefore_append_cons hnodup, Layout.map_field_ofFields] at hfield
  obtain ⟨f, hf, hname⟩ := List.mem_map.1 hfield
  obtain ⟨before, after, rfl⟩ := List.append_of_mem hf
  -- The field of that name among those that were read is reached with all that is after it left.
  have hreached : Reaches frame ⟨f.1, f.2.kind⟩ (f.2.encode ++ (encodeFields after ++ tail)) := by
    rw [encodeFields_append, encodeFields_cons, List.append_assoc, List.append_assoc] at hframe
    rw [Layout.ofFields_append, Layout.ofFields_cons, List.append_assoc] at hlayout
    rw [hframe] at hpeek ⊢
    exact .field hpeek hlayout fun g hg => hcanonical g (List.mem_append_left _ hg)
  obtain ⟨rfl, rfl⟩ := unique hpeek hreached h' hname
  refine ⟨(f.2, encodeFields after ++ tail), ?_⟩
  rw [Kind.read_eq_ok_iff hreached.kind_ne_remainder]
  exact ⟨rfl, hcanonical f hf, rfl⟩

end Reaches

/-- The reader of `typeSlot` fails exactly on frames of less than two bytes. -/
private theorem read_typeSlot_eq_error_iff {frame : Bytes} {e : Error} :
    Layout.typeSlot.kind.read frame = .error e ↔
      frame.length < 2 ∧ e = .underflow none 2 frame.length := by
  show (takeNat 2 frame >>= _) = _ ↔ _
  simp only [Except.bind_eq_error_iff, takeNat_eq_error_iff, pure, Except.pure, reduceCtorEq,
    and_false, exists_false, or_false]

/-- `decode` fails exactly where the slot that it reaches cannot be read. -/
theorem decode_eq_error_iff {frame : Bytes} {e : Error} :
    decode frame = .error e ↔
      ∃ slot tail e', Reaches frame slot tail ∧ slot.kind.read tail = .error e' ∧
        e'.atField slot.field = e := by
  cases hpeek : peekType frame with
  | error fault =>
    -- Without a type number nothing but its own slot is reached.
    obtain ⟨hlength, hfault⟩ := peekType_eq_error_iff.1 hpeek
    have hdecode : decode frame = .error fault := by simp only [decode, hpeek, bind, Except.bind]
    rw [hdecode, hfault]
    constructor
    · intro h
      exact ⟨Layout.typeSlot, frame, _, .type frame,
        read_typeSlot_eq_error_iff.2 ⟨hlength, rfl⟩, Except.error.inj h⟩
    · intro h
      obtain ⟨slot, tail, e', hreaches, hread, rfl⟩ := h
      cases hreaches with
      | type =>
        obtain ⟨-, rfl⟩ := read_typeSlot_eq_error_iff.1 hread
        rfl
      | field peek_eq => cases hpeek.symm.trans peek_eq
  | ok id =>
    -- With a type number the fields are all that can fail.
    have hdecode : decode frame = .error e ↔ (Layout.ofTypeId id).read frame = .error e := by
      simp only [decode, readAs_eq, hpeek, Except.bind_eq_error_iff, Except.ok.injEq, reduceCtorEq,
        false_or, exists_eq_left', pure, Except.pure, and_false, exists_false, or_false]
    rw [hdecode, Layout.read_eq_error_iff fun _ h => Layout.kind_ne_remainder h]
    constructor
    · intro h
      obtain ⟨fields, slot, later, tail, hlayout, hcanonical, rfl, e', he⟩ := h
      exact ⟨slot, tail, e', .field hpeek hlayout hcanonical, he⟩
    · intro h
      obtain ⟨slot, tail, e', hreaches, he⟩ := h
      obtain ⟨fields, later, hlayout, hcanonical, hframe⟩ := hreaches.exists_fields hpeek
      exact ⟨fields, slot, later, tail, hlayout, hcanonical, hframe, e', he⟩

/-- `decode` fails in two ways only: over a malformation, which stays, or where the bytes end, which
    it tells of until there are as many as needed. -/
theorem decode_eq_error_cases {frame : Bytes} {e : Error} (h : decode frame = .error e) :
    (∃ cause, e = .malformed cause ∧ ∀ more, decode (frame ++ more) = .error e) ∨
      ∃ slot tail needed, Reaches frame slot tail ∧
        slot.kind.read tail = .error (.underflow none needed tail.length) ∧
        e = .underflow (some slot.field) needed tail.length ∧ tail.length < needed ∧
        ∀ more : Bytes, tail.length + more.length < needed → decode (frame ++ more) =
          .error (.underflow (some slot.field) needed (tail.length + more.length)) := by
  obtain ⟨slot, tail, e, hreaches, hread, rfl⟩ := decode_eq_error_iff.1 h
  -- The slot that fails is reached in the longer frame as well, and its reader takes nothing back.
  obtain ⟨cause, rfl, hmore⟩ | ⟨needed, rfl, hneeded, hmore⟩ :=
    (Kind.isIncremental_read hreaches.kind_ne_remainder).error tail e hread
  · refine .inl ⟨cause, rfl, fun more => ?_⟩
    exact decode_eq_error_iff.2 ⟨slot, tail ++ more, _, hreaches.append more, hmore more, rfl⟩
  · refine .inr ⟨slot, tail, needed, hreaches, hread, rfl, hneeded, fun more hlength => ?_⟩
    rw [← List.length_append] at hlength ⊢
    exact decode_eq_error_iff.2
      ⟨slot, tail ++ more, _, hreaches.append more, hmore more hlength, rfl⟩

/-- More bytes behind a frame that `decode` reads go into the remainder. -/
theorem decode_append_of_ok {frame : Bytes} {m : Message} (h : decode frame = .ok m)
    (more : Bytes) :
    decode (frame ++ more) = .ok (m.withRemainder (m.remainder.getD [] ++ more)) := by
  obtain ⟨hwf, hcanonical, rfl⟩ := decode_eq_ok_iff.1 h
  refine decode_eq_ok_iff.2 ⟨⟨hwf.layout_eq, hwf.head_eq, nonEmpty_ne_some_nil _⟩, hcanonical, ?_⟩
  rw [encode_eq, encode_eq, withRemainder, getD_nonEmpty, List.append_assoc]

/-- `decode` cannot miss any of the bytes before the remainder. -/
theorem decode_take_of_ok {frame : Bytes} {m : Message} (h : decode frame = .ok m) {k : Nat}
    (hk : k < frame.length - (m.remainder.getD []).length) :
    ∃ field needed available,
      decode (frame.take k) = .error (.underflow (some field) needed available) := by
  cases htake : decode (frame.take k) with
  | ok m' =>
    -- The bytes that were cut off would be in the remainder.
    have hdecode := decode_append_of_ok htake (frame.drop k)
    rw [List.take_append_drop, h, Except.ok.injEq] at hdecode
    rw [hdecode, withRemainder, getD_nonEmpty, List.length_append, List.length_drop] at hk
    omega
  | error e =>
    -- A malformation would stay when the bytes come back.
    obtain ⟨cause, rfl, hmore⟩ | ⟨slot, tail, needed, -, -, rfl, -⟩ := decode_eq_error_cases htake
    · have hdecode := hmore (frame.drop k)
      rw [List.take_append_drop, h] at hdecode
      cases hdecode
    · exact ⟨_, _, _, rfl⟩

/-- Once the bytes are there that were missing in a slot, the frame has a type number. -/
private theorem Reaches.exists_peekType {frame tail more : Bytes} {slot : Slot} {needed : Nat}
    (h : Reaches frame slot tail)
    (hread : slot.kind.read tail = .error (.underflow none needed tail.length))
    (hmore : needed ≤ tail.length + more.length) : ∃ id, peekType (frame ++ more) = .ok id := by
  cases h with
  | type =>
    obtain ⟨-, hfault⟩ := read_typeSlot_eq_error_iff.1 hread
    obtain ⟨-, rfl, -⟩ := Error.underflow.inj hfault
    cases hpeek : peekType (frame ++ more) with
    | ok id => exact ⟨id, rfl⟩
    | error e =>
      have hlength := (peekType_eq_error_iff.1 hpeek).1
      rw [List.length_append] at hlength
      omega
  | field peek_eq layout_eq canonical =>
    obtain ⟨rest, hrest⟩ := peekType_eq_ok_iff.1 peek_eq
    exact ⟨_, peekType_eq_ok_iff.2 ⟨rest ++ more, by rw [hrest, List.append_assoc]⟩⟩

/-- What a longer frame asks for is never in a field before one that was reached, and if it is in
    the same field then it is more than there is. -/
theorem Reaches.of_decode {frame tail more : Bytes} {slot : Slot} {id : UInt16} {field : Field}
    {needed available : Nat} (h : Reaches frame slot tail)
    (hpeek : peekType (frame ++ more) = .ok id)
    (hdecode : decode (frame ++ more) = .error (.underflow (some field) needed available)) :
    field ∉ (Layout.ofTypeId id).fieldsBefore slot.field ∧
      (field = slot.field → tail.length + more.length < needed) := by
  obtain ⟨cause, hcause, -⟩ | ⟨slot', tail', needed, h', hread, hfault, hneeded, -⟩ :=
    decode_eq_error_cases hdecode
  · cases hcause
  · obtain ⟨hfield, rfl, -⟩ := Error.underflow.inj hfault
    obtain rfl := Option.some.inj hfield
    constructor
    · -- All slots before the one that was reached were read.
      intro hmem
      obtain ⟨p, hp⟩ := read_of_mem hpeek (h.append more) h' hmem
      rw [hp] at hread
      cases hread
    · intro hsame
      obtain ⟨-, rfl⟩ := unique hpeek h' (h.append more) hsame
      rwa [List.length_append] at hneeded

/-- What more bytes, and fewer, do to each answer of `decode`.  After a message they go into its
    remainder, and before the remainder none of its bytes can be missed.  A malformation stays.  A
    frame that ends inside `field` tells by `underflow` how many bytes there should be from the
    start of that field on, and how many there are; it goes on asking for as many until they are
    there, and what it then asks for is not in a field of `fieldsBefore`, and more if it is in the
    same field. There are no other answers. -/
theorem decode_append (frame : Bytes) :
    match decode frame with
    | .ok m =>
      (∀ more, decode (frame ++ more) = .ok (m.withRemainder (m.remainder.getD [] ++ more))) ∧
        ∀ k < frame.length - (m.remainder.getD []).length, ∃ field needed available,
          decode (frame.take k) = .error (.underflow (some field) needed available)
    | .error (.malformed cause) => ∀ more, decode (frame ++ more) = .error (.malformed cause)
    | .error (.underflow (some field) needed available) =>
      available < needed ∧
        (∃ slot tail, Reaches frame slot tail ∧ slot.field = field ∧ tail.length = available) ∧
        (∀ more, more.length < needed - available → decode (frame ++ more) =
          .error (.underflow (some field) needed (available + more.length))) ∧
        ∀ more, needed - available ≤ more.length → ∃ id, peekType (frame ++ more) = .ok id ∧
          ∀ field' needed' available',
            decode (frame ++ more) = .error (.underflow (some field') needed' available') →
            field' ∉ (Layout.ofTypeId id).fieldsBefore field ∧ (field' = field → needed < needed')
    | .error _ => False := by
  cases hdecode : decode frame with
  | ok m => exact ⟨decode_append_of_ok hdecode, fun _ => decode_take_of_ok hdecode⟩
  | error e =>
    obtain ⟨cause, rfl, hmore⟩ | ⟨slot, tail, needed, h, hread, rfl, hneeded, hmore⟩ :=
      decode_eq_error_cases hdecode
    · exact hmore
    · refine ⟨hneeded, ⟨slot, tail, h, rfl, rfl⟩, fun more hlength => hmore more (by omega),
        fun more hlength => ?_⟩
      -- From here on the bytes that were missing are there.
      have hlength : needed ≤ tail.length + more.length := by omega
      obtain ⟨id, hpeek⟩ := h.exists_peekType hread hlength
      refine ⟨id, hpeek, fun field' needed' available' hdecode' => ?_⟩
      obtain ⟨hfield, hsame⟩ := h.of_decode hpeek hdecode'
      exact ⟨hfield, fun heq => Nat.lt_of_le_of_lt hlength (hsame heq)⟩

end Message

end ChannelGossip
