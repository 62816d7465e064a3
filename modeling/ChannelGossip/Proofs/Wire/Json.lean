import ChannelGossip.Proofs.Text.Hex
import ChannelGossip.Proofs.Text.Json
import ChannelGossip.Proofs.Wire.Reading
import ChannelGossip.Proofs.Wire.ShortChannelId
import ChannelGossip.Wire.Value.Text

/-! # Values in JSON text

The JSON text of a value tells it from the other values of its kind, except that aliases are told
apart by their texts only.  Main statements:

* `Value.isValue_json`   every value is written as a number, a string or an object
* `Value.Alike`   values that are the same but for the spelling of an alias
* `Value.json_eq_json_iff`   values of a kind have the same JSON text exactly if they are alike -/

namespace ChannelGossip

/-- `hex` writes different texts for different values of fixed width. -/
theorem FixedBytes.hex_inj {kind : FixedKind} {v w : FixedBytes kind} :
    v.hex = w.hex ↔ v = w := by
  rw [hex, hex, Text.Hex.encode_inj, FixedBytes.mk.injEq]

/-- `text` prints different ids differently. -/
theorem ShortChannelId.text_inj {a b : ShortChannelId} : a.text = b.text ↔ a = b := by
  constructor
  · intro h
    -- The text is read back as either of them.
    have ha : parse a.text = .ok a := parse_eq_ok_iff.2 a.names_text
    have hb : parse b.text = .ok b := parse_eq_ok_iff.2 b.names_text
    rw [h, hb] at ha
    exact (Except.ok.inj ha).symm
  · rintro rfl
    rfl

/-- Canonical id lists are the same if their encodings have the same `byte` and their bodies are the
    same. -/
theorem IdList.IsCanonical.eq_of_byte_eq {a b : IdList} (ha : a.IsCanonical) (hb : b.IsCanonical)
    (hbyte : a.encoding.byte = b.encoding.byte) (hbody : a.body = b.body) : a = b := by
  have hencoding : a.encoding = b.encoding := by
    rw [← IdEncoding.ofByte_eq_iff.2 ⟨ha.encoding, rfl⟩, hbyte,
      IdEncoding.ofByte_eq_iff.2 ⟨hb.encoding, rfl⟩]
  cases a
  cases b
  rw [IdList.mk.injEq]
  exact ⟨hencoding, hbody⟩

/-- The members of an id list in JSON text. -/
def IdList.jsonMembers (list : IdList) : List (String × String) :=
  [("encoding", toString list.encoding.byte.toNat),
   ("data", Text.Json.quote (Text.Hex.encode list.body))]

/-- `jsonMembers` are a number and a string. -/
theorem IdList.isValue_jsonMembers (list : IdList) :
    ∀ m ∈ list.jsonMembers, Text.Json.IsValue m.2 := by
  intro m hm
  simp only [jsonMembers, List.mem_cons, List.not_mem_nil, or_false] at hm
  rcases hm with rfl | rfl
  · exact .number _
  · exact .string _

namespace Value

/-- `Value.json` writes a number, a string or an object. -/
theorem isValue_json (v : Value) : Text.Json.IsValue v.json := by
  cases v with
  | fixed v => rename_i kind; cases kind <;> exact .string _
  | idList list => exact .object list.isValue_jsonMembers
  | shortChannelId _ | varBytes _ | remainder _ => exact .string _
  | _ => exact .number _

/-- Two values look alike in JSON text: they are the same, or aliases with the same text. -/
inductive Alike : Value → Value → Prop where
  | same (v : Value) : Alike v v
  | aliases {a b : Alias} (text_eq : Alias.text a = Alias.text b) : Alike (.fixed a) (.fixed b)

/-- Only aliases can be alike without being the same. -/
theorem Alike.eq_of_kind_ne {v w : Value} (h : v.Alike w) (hkind : v.kind ≠ .fixed .nodeAlias) :
    v = w := by
  cases h with
  | same => rfl
  | aliases => exact absurd rfl hkind

/-- Values that are `Alike` have the same JSON text. -/
theorem Alike.json_eq {v w : Value} (h : v.Alike w) : v.json = w.json := by
  cases h with
  | same => rfl
  | aliases text_eq => exact congrArg Text.Json.quote text_eq

/-- Canonical values of the same kind have the same JSON text exactly if they are `Alike`. -/
theorem json_eq_json_iff {v w : Value} (hkind : v.kind = w.kind) (hv : v.IsCanonical)
    (hw : w.IsCanonical) : v.json = w.json ↔ v.Alike w := by
  refine ⟨fun h => ?_, Alike.json_eq⟩
  -- By `hkind` the other value is of the same constructor, and each text can be read back.
  cases v with
  | messageType id =>
    obtain ⟨id', rfl⟩ := kind_eq_messageType_iff.1 hkind.symm
    rw [UInt16.toNat_inj.1 (Text.Numeral.toString_inj.1 h)]
    exact .same _
  | u8 n =>
    obtain ⟨n', rfl⟩ := kind_eq_u8_iff.1 hkind.symm
    rw [UInt8.toNat_inj.1 (Text.Numeral.toString_inj.1 h)]
    exact .same _
  | u16 n =>
    obtain ⟨n', rfl⟩ := kind_eq_u16_iff.1 hkind.symm
    rw [UInt16.toNat_inj.1 (Text.Numeral.toString_inj.1 h)]
    exact .same _
  | u32 n =>
    obtain ⟨n', rfl⟩ := kind_eq_u32_iff.1 hkind.symm
    rw [UInt32.toNat_inj.1 (Text.Numeral.toString_inj.1 h)]
    exact .same _
  | u64 n =>
    obtain ⟨n', rfl⟩ := kind_eq_u64_iff.1 hkind.symm
    rw [UInt64.toNat_inj.1 (Text.Numeral.toString_inj.1 h)]
    exact .same _
  | @fixed kind a =>
    obtain ⟨b, rfl⟩ := kind_eq_fixed_iff.1 hkind.symm
    cases kind with
    | nodeAlias => exact .aliases (Text.Json.quote_inj.1 h)
    | _ =>
      rw [FixedBytes.hex_inj.1 (Text.Json.quote_inj.1 h)]
      exact .same _
  | shortChannelId id =>
    obtain ⟨id', rfl⟩ := kind_eq_shortChannelId_iff.1 hkind.symm
    rw [ShortChannelId.text_inj.1 (Text.Json.quote_inj.1 h)]
    exact .same _
  | varBytes a =>
    obtain ⟨b, rfl⟩ := kind_eq_varBytes_iff.1 hkind.symm
    have hbytes : a.bytes = b.bytes := Text.Hex.encode_inj.1 (Text.Json.quote_inj.1 h)
    cases a
    cases b
    obtain rfl := hbytes
    exact .same _
  | idList a =>
    obtain ⟨b, rfl⟩ := kind_eq_idList_iff.1 hkind.symm
    have hmembers := (Text.Json.object_inj a.isValue_jsonMembers b.isValue_jsonMembers).1 h
    simp only [IdList.jsonMembers, List.cons.injEq, Prod.mk.injEq, true_and, and_true,
      Text.Numeral.toString_inj, Text.Json.quote_inj, Text.Hex.encode_inj] at hmembers
    obtain ⟨hbyte, hbody⟩ := hmembers
    rw [IdList.IsCanonical.eq_of_byte_eq hv hw (UInt8.toNat_inj.1 hbyte) hbody]
    exact .same _
  | remainder a =>
    cases w with
    | remainder b =>
      rw [Text.Hex.encode_inj.1 (Text.Json.quote_inj.1 h)]
      exact .same _
    | _ => cases hkind

end Value

end ChannelGossip
