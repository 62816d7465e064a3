import Mathlib.Data.List.Forall2
import ChannelGossip.Message.Text
import ChannelGossip.Proofs.Message.Framing
import ChannelGossip.Proofs.Wire.Json

/-! # Messages in JSON text

The JSON text of a message says what its type is, what its fields hold and what follows them, so
that it tells the frame that the message was read from, except for aliases that are spelled with
different bytes and read as the same text.  Main statements:

* `Layout.map_shown_eq_iff`   fields of one layout have the same members exactly if they are alike
* `Message.json_eq_json_iff`   messages have the same JSON text exactly if they are alike
* `Message.json_tells_frames`   the same for messages that were read, and which frames it tells -/

namespace ChannelGossip

/-- The member that shows a field in JSON text. -/
def shown (f : Field × Value) : String × String := (f.1.tag, f.2.json)

/-- Fields of the same layout are `shown` by the same members exactly if all their values are
    alike. -/
theorem Layout.map_shown_eq_iff {fields fields' : List (Field × Value)}
    (hlayout : Layout.ofFields fields = Layout.ofFields fields')
    (hcanonical : ∀ f ∈ fields, f.2.IsCanonical) (hcanonical' : ∀ f ∈ fields', f.2.IsCanonical) :
    fields.map shown = fields'.map shown ↔
      List.Forall₂ (fun f f' => f.1 = f'.1 ∧ f.2.Alike f'.2) fields fields' := by
  induction fields generalizing fields' with
  | nil =>
    cases fields' with
    | nil => simp
    | cons f' fields' => cases hlayout
  | cons f fields ih =>
    cases fields' with
    | nil => cases hlayout
    | cons f' fields' =>
      -- Field by field: the names are the same, and `Value.json_eq_json_iff` compares the values.
      rw [List.forall_mem_cons] at hcanonical hcanonical'
      obtain ⟨hslot, hlayout⟩ := List.cons.inj hlayout
      obtain ⟨hfield, hkind⟩ := (Slot.mk.injEq ..).mp hslot
      have hvalue := Value.json_eq_json_iff hkind hcanonical.1 hcanonical'.1
      rw [List.map_cons, List.map_cons, List.cons.injEq, List.forall₂_cons,
        ih hlayout hcanonical.2 hcanonical'.2, shown, shown, Prod.mk.injEq, hvalue, hfield]
      simp

namespace Message

/-- The member that shows the bytes after the last field. -/
def shownRemainder (bytes : Bytes) : String × String :=
  ("remainder", Text.Json.quote (Text.Hex.encode bytes))

/-- The members of a message in JSON text. -/
def jsonMembers (m : Message) : List (String × String) :=
  ("name", Text.Json.quote m.name) :: m.fields.map shown ++ m.remainder.toList.map shownRemainder

theorem json_eq (m : Message) : m.json = Text.Json.object m.jsonMembers := rfl

/-- All members of `jsonMembers` are values. -/
theorem isValue_jsonMembers (m : Message) : ∀ member ∈ m.jsonMembers,
    Text.Json.IsValue member.2 := by
  intro member hmember
  simp only [jsonMembers, List.cons_append, List.mem_cons, List.mem_append, List.mem_map] at hmember
  rcases hmember with rfl | ⟨f, -, rfl⟩ | ⟨bytes, -, rfl⟩
  · exact .string _
  · exact f.2.isValue_json
  · exact .string _

/-- Remainders that `shownRemainder` shows in the same way are the same. -/
theorem remainder_eq_of_shown {r r' : Option Bytes}
    (h : r.toList.map shownRemainder = r'.toList.map shownRemainder) : r = r' := by
  rcases r with _ | bytes
  · rcases r' with _ | bytes'
    · rfl
    · cases h
  · rcases r' with _ | bytes'
    · cases h
    · have hquote := (Prod.mk.inj (List.cons.inj h).1).2
      rw [Text.Hex.encode_inj.1 (Text.Json.quote_inj.1 hquote)]

/-- Two messages look alike in JSON text: they are of the same type, have the same remainder, and
    the values of their fields are the same but for aliases that read as the same text. -/
structure Alike (a b : Message) : Prop where
  typeId_eq : a.typeId = b.typeId
  remainder_eq : a.remainder = b.remainder
  fields_alike : List.Forall₂ (fun f f' => f.1 = f'.1 ∧ f.2.Alike f'.2) a.fields b.fields

/-- Well-formed messages of one type have the same layout. -/
theorem WellFormed.ofFields_eq {a b : Message} (ha : a.WellFormed) (hb : b.WellFormed)
    (htype : a.typeId = b.typeId) : Layout.ofFields a.fields = Layout.ofFields b.fields := by
  rw [ha.layout_eq, hb.layout_eq, htype]

/-- Well-formed messages with the same `jsonMembers` are of one type: the first field holds its
    number. -/
theorem WellFormed.typeId_eq_of_jsonMembers {a b : Message} (ha : a.WellFormed)
    (hb : b.WellFormed) (h : a.jsonMembers = b.jsonMembers) : a.typeId = b.typeId := by
  obtain ⟨fields, hfields⟩ := List.head?_eq_some_iff.1 ha.head_eq
  obtain ⟨fields', hfields'⟩ := List.head?_eq_some_iff.1 hb.head_eq
  simp only [jsonMembers, hfields, hfields', List.map_cons, List.cons_append] at h
  have htype := (List.cons.inj (List.cons.inj h).2).1
  have hnumber : toString a.typeId.toNat = toString b.typeId.toNat := (Prod.mk.inj htype).2
  exact UInt16.toNat_inj.1 (Text.Numeral.toString_inj.1 hnumber)

/-- Well-formed, canonical messages have the same JSON text exactly if they are `Alike`. -/
theorem json_eq_json_iff {a b : Message} (ha : a.WellFormed) (hb : b.WellFormed)
    (hcanonical : a.IsCanonical) (hcanonical' : b.IsCanonical) :
    a.json = b.json ↔ a.Alike b := by
  rw [json_eq, json_eq, Text.Json.object_inj a.isValue_jsonMembers b.isValue_jsonMembers]
  constructor
  · intro h
    have htype := ha.typeId_eq_of_jsonMembers hb h
    have hlayout := ha.ofFields_eq hb htype
    -- One layout means as many fields, so that the remainders stand at the same place.
    have hlength : (a.fields.map shown).length = (b.fields.map shown).length := by
      simpa [Layout.ofFields] using congrArg List.length hlayout
    obtain ⟨hfields, hremainder⟩ := List.append_inj (List.cons.inj h).2 hlength
    exact ⟨htype, remainder_eq_of_shown hremainder,
      (Layout.map_shown_eq_iff hlayout hcanonical hcanonical').1 hfields⟩
  · intro h
    have hlayout := ha.ofFields_eq hb h.typeId_eq
    have hfields := (Layout.map_shown_eq_iff hlayout hcanonical hcanonical').2 h.fields_alike
    rw [jsonMembers, jsonMembers, hfields, h.remainder_eq, name, name, h.typeId_eq]

/-- Only node announcements have an alias. -/
theorem kind_ne_nodeAlias {m : Message} (h : m.WellFormed)
    (hkind : m.kind? ≠ some .nodeAnnouncement) :
    ∀ f ∈ m.fields, f.2.kind ≠ .fixed .nodeAlias := by
  intro f hf halias
  have hslot : ⟨f.1, f.2.kind⟩ ∈ Layout.ofTypeId m.typeId := by
    rw [← h.layout_eq]
    exact List.mem_map_of_mem hf
  unfold Layout.ofTypeId at hslot
  split at hslot
  · rename_i kind hid
    -- The layouts of the catalogue are gone through one by one.
    have hbody : ∀ kind : MessageKind, kind ≠ .nodeAnnouncement →
        ∀ slot ∈ kind.layout, slot.kind ≠ .fixed .nodeAlias := by
      intro kind hne
      cases kind <;> first | exact absurd rfl hne | decide
    have hne : kind ≠ .nodeAnnouncement := by
      rintro rfl
      exact hkind hid
    exact hbody kind hne _ hslot halias
  · -- Nothing but the type number is known of messages outside the catalogue.
    have htype := congrArg Slot.kind (List.mem_singleton.1 hslot)
    rw [halias] at htype
    cases htype

/-- Messages that are `Alike` are the same, unless they are node announcements. -/
theorem Alike.eq_of_kind_ne {a b : Message} (h : a.Alike b) (ha : a.WellFormed)
    (hkind : a.kind? ≠ some .nodeAnnouncement) : a = b := by
  have hfields : a.fields = b.fields := by
    have halike := (List.forall₂_and_left _ _).2 ⟨kind_ne_nodeAlias ha hkind, h.fields_alike⟩
    rw [← List.forall₂_eq_eq_eq]
    refine halike.imp ?_
    rintro f f' ⟨hkind, hfield, hvalue⟩
    exact Prod.ext hfield (hvalue.eq_of_kind_ne hkind)
  cases a
  cases b
  rw [Message.mk.injEq]
  exact ⟨h.typeId_eq, hfields, h.remainder_eq⟩

/-- Two messages that `decode` reads have the same JSON text exactly if they are `Alike`: of the
    same type, with the same remainder and the same values, but for aliases that read as the same
    text. Unless they are node announcements they were read from the same frame then. -/
theorem json_tells_frames (frame frame' : Bytes) (a b : Message) (ha : decode frame = .ok a)
    (hb : decode frame' = .ok b) :
    (a.json = b.json ↔ a.Alike b) ∧
      (a.json = b.json → a.kind? ≠ some .nodeAnnouncement → a = b ∧ frame = frame') := by
  obtain ⟨hwf, hcanonical, rfl⟩ := decode_eq_ok_iff.1 ha
  obtain ⟨hwf', hcanonical', rfl⟩ := decode_eq_ok_iff.1 hb
  have hiff := json_eq_json_iff hwf hwf' hcanonical hcanonical'
  refine ⟨hiff, fun h hkind => ?_⟩
  obtain rfl := (hiff.1 h).eq_of_kind_ne hwf hkind
  exact ⟨rfl, rfl⟩

/-- Two aliases that are spelled with one byte which begins no character are not told apart: both
    are read as the replacement character. -/
theorem json_tells_frames_but_aliases :
    let nodeAlias (first : UInt8) : Alias := ⟨first :: List.replicate 31 0, rfl⟩
    let m (first : UInt8) : Message :=
      { typeId := 257
        fields :=
          [(.type, .messageType 257),
           (.signature, .fixed (⟨List.replicate 64 0, rfl⟩ : Signature)),
           (.features, .varBytes ⟨[], by decide⟩), (.timestamp, .u32 7),
           (.nodeId, .fixed (⟨List.replicate 33 2, rfl⟩ : Point)),
           (.rgbColor, .fixed (⟨[1, 2, 3], rfl⟩ : RgbColor)),
           (.nodeAlias, .fixed (nodeAlias first)), (.addresses, .varBytes ⟨[], by decide⟩)]
        remainder := none }
    decode (m 0xFE).encode = .ok (m 0xFE) ∧ decode (m 0xFF).encode = .ok (m 0xFF) ∧
      (m 0xFE).json = (m 0xFF).json ∧ (m 0xFE).encode ≠ (m 0xFF).encode := by
  intro nodeAlias m
  have hdecode : ∀ x, decode (m x).encode = .ok (m x) := by
    intro x
    refine decode_encode_iff.2 ⟨⟨rfl, rfl, nofun⟩, ?_⟩
    simp [m, IsCanonical, Value.IsCanonical]
  -- Neither byte can begin a character, so each is read as U+FFFD.
  have htext : Alias.text (nodeAlias 0xFE) = Alias.text (nodeAlias 0xFF) := by
    show Text.Utf8.decodeLossy [0xFE] = Text.Utf8.decodeLossy [0xFF]
    cbv
  have halike : ∀ x y, Alias.text (nodeAlias x) = Alias.text (nodeAlias y) →
      (m x).Alike (m y) := by
    intro x y htext
    have hsame : ∀ f : Field × Value, f.1 = f.1 ∧ f.2.Alike f.2 := fun f => ⟨rfl, .same f.2⟩
    refine ⟨rfl, rfl, ?_⟩
    exact .cons (hsame _) (.cons (hsame _) (.cons (hsame _) (.cons (hsame _) (.cons (hsame _)
      (.cons (hsame _) (.cons ⟨rfl, .aliases htext⟩ (.cons (hsame _) .nil)))))))
  have hjson := (json_tells_frames _ _ _ _ (hdecode 0xFE) (hdecode 0xFF)).1.2 (halike _ _ htext)
  exact ⟨hdecode 0xFE, hdecode 0xFF, hjson, by decide⟩

end Message

end ChannelGossip
