import ChannelGossip.Proofs.Message.Framing

/-! # The wire grammar

The language of a kind says which byte strings stand for its values, without saying how they are
read or written.  A layout is spelled piece by piece, one string from the language of each slot's
kind, and there is one way at most to cut a string into such pieces.  Main statements:

* `Kind.Spells`, `Layout.Spells`   the language of a kind and of a layout
* `Kind.spells_iff`, `Layout.spells_iff`   writing canonical values gives exactly these languages
* `Layout.read_iff_spells`   and reading accepts exactly them
* `Layout.Spells.unique`   no string can be cut in two ways -/

namespace ChannelGossip

namespace Bytes

/-- `ofNat w n` is the only string of `w` bytes with the number `n`. -/
theorem eq_ofNat_iff {w n : Nat} {bs : Bytes} (h : n < 256 ^ w) :
    bs = ofNat w n ↔ bs.length = w ∧ toNat bs = n := by
  constructor
  · intro hbs
    subst hbs
    rw [length_ofNat, toNat_ofNat, Nat.mod_eq_of_lt h]
    exact ⟨rfl, rfl⟩
  · intro hbs
    obtain ⟨rfl, rfl⟩ := hbs
    exact (ofNat_toNat bs).symm

end Bytes

/-! ## Kinds -/

/-- The language of a kind: the byte strings that stand for its values, each with its value. Numbers
    have a fixed width and so have the kinds of plain bytes; other strings travel behind a length in
    two bytes, which for id lists counts the encoding byte as well. -/
inductive Kind.Spells : Kind → Bytes → Value → Prop where
  | messageType {bs : Bytes} {id : UInt16} (length_eq : bs.length = 2)
      (toNat_eq : Bytes.toNat bs = id.toNat) : Spells .messageType bs (.messageType id)
  | u8 {bs : Bytes} {n : UInt8} (length_eq : bs.length = 1)
      (toNat_eq : Bytes.toNat bs = n.toNat) : Spells .u8 bs (.u8 n)
  | u16 {bs : Bytes} {n : UInt16} (length_eq : bs.length = 2)
      (toNat_eq : Bytes.toNat bs = n.toNat) : Spells .u16 bs (.u16 n)
  | u32 {bs : Bytes} {n : UInt32} (length_eq : bs.length = 4)
      (toNat_eq : Bytes.toNat bs = n.toNat) : Spells .u32 bs (.u32 n)
  | u64 {bs : Bytes} {n : UInt64} (length_eq : bs.length = 8)
      (toNat_eq : Bytes.toNat bs = n.toNat) : Spells .u64 bs (.u64 n)
  | fixed {kind : FixedKind} {bs : Bytes} (length_eq : bs.length = kind.width) :
      Spells (.fixed kind) bs (.fixed ⟨bs, length_eq⟩)
  | shortChannelId {bs : Bytes} {id : ShortChannelId} (length_eq : bs.length = 8)
      (toNat_eq : Bytes.toNat bs = id.raw.toNat) : Spells .shortChannelId bs (.shortChannelId id)
  | varBytes {length : Bytes} {v : VarBytes} (length_eq : length.length = 2)
      (toNat_eq : Bytes.toNat length = v.bytes.length) :
      Spells .varBytes (length ++ v.bytes) (.varBytes v)
  | idList {length : Bytes} {encoding : UInt8} {body : Bytes} (length_eq : length.length = 2)
      (toNat_eq : Bytes.toNat length = body.length + 1) :
      Spells .idList (length ++ encoding :: body) (.idList ⟨.ofByte encoding, body⟩)

/-- `Kind.Spells` is what `Value.encode` gives for the canonical values of the kind. -/
theorem Kind.spells_iff {kind : Kind} (hkind : kind ≠ .remainder) {bs : Bytes} {v : Value} :
    kind.Spells bs v ↔ v.kind = kind ∧ v.IsCanonical ∧ bs = v.encode := by
  constructor
  · intro h
    -- In either direction numbers are compared by `Bytes.eq_ofNat_iff`.
    cases h with
    | messageType length_eq toNat_eq =>
      exact ⟨rfl, trivial, (Bytes.eq_ofNat_iff (UInt16.toNat_lt _)).2 ⟨length_eq, toNat_eq⟩⟩
    | u8 length_eq toNat_eq =>
      refine ⟨rfl, trivial, ?_⟩
      show bs = [_]
      rw [ofNat_one_toNat]
      exact (Bytes.eq_ofNat_iff (UInt8.toNat_lt _)).2 ⟨length_eq, toNat_eq⟩
    | u16 length_eq toNat_eq =>
      exact ⟨rfl, trivial, (Bytes.eq_ofNat_iff (UInt16.toNat_lt _)).2 ⟨length_eq, toNat_eq⟩⟩
    | u32 length_eq toNat_eq =>
      exact ⟨rfl, trivial, (Bytes.eq_ofNat_iff (UInt32.toNat_lt _)).2 ⟨length_eq, toNat_eq⟩⟩
    | u64 length_eq toNat_eq =>
      exact ⟨rfl, trivial, (Bytes.eq_ofNat_iff (UInt64.toNat_lt _)).2 ⟨length_eq, toNat_eq⟩⟩
    | fixed length_eq => exact ⟨rfl, trivial, rfl⟩
    | shortChannelId length_eq toNat_eq =>
      exact ⟨rfl, trivial, (Bytes.eq_ofNat_iff (UInt64.toNat_lt _)).2 ⟨length_eq, toNat_eq⟩⟩
    | @varBytes length v length_eq toNat_eq =>
      refine ⟨rfl, trivial, ?_⟩
      show _ = Bytes.ofNat 2 v.bytes.length ++ v.bytes
      rw [← (Bytes.eq_ofNat_iff v.length_lt).2 ⟨length_eq, toNat_eq⟩]
    | @idList length encoding body length_eq toNat_eq =>
      have hlt : body.length + 1 < 256 ^ 2 := by
        rw [← toNat_eq, ← length_eq]
        exact Bytes.toNat_lt length
      have hcanonical : IdList.IsCanonical ⟨.ofByte encoding, body⟩ :=
        ⟨(IdEncoding.ofByte_eq_iff.1 rfl).1, Nat.le_of_lt_succ (Nat.lt_of_succ_lt_succ hlt)⟩
      refine ⟨rfl, hcanonical, ?_⟩
      show _ = Bytes.ofNat 2 (body.length + 1) ++ (IdEncoding.ofByte encoding).byte :: body
      rw [IdEncoding.byte_ofByte, ← (Bytes.eq_ofNat_iff hlt).2 ⟨length_eq, toNat_eq⟩]
  · intro h
    obtain ⟨rfl, hcanonical, rfl⟩ := h
    -- A canonical value has the bytes that its kind asks for.
    cases v with
    | messageType id =>
      obtain ⟨hlength, htoNat⟩ := (Bytes.eq_ofNat_iff (w := 2) id.toNat_lt).1 rfl
      exact .messageType hlength htoNat
    | u8 n =>
      obtain ⟨hlength, htoNat⟩ := (Bytes.eq_ofNat_iff n.toNat_lt).1 (ofNat_one_toNat n)
      exact .u8 hlength htoNat
    | u16 n =>
      obtain ⟨hlength, htoNat⟩ := (Bytes.eq_ofNat_iff (w := 2) n.toNat_lt).1 rfl
      exact .u16 hlength htoNat
    | u32 n =>
      obtain ⟨hlength, htoNat⟩ := (Bytes.eq_ofNat_iff (w := 4) n.toNat_lt).1 rfl
      exact .u32 hlength htoNat
    | u64 n =>
      obtain ⟨hlength, htoNat⟩ := (Bytes.eq_ofNat_iff (w := 8) n.toNat_lt).1 rfl
      exact .u64 hlength htoNat
    | fixed v => exact .fixed v.length_eq
    | shortChannelId id =>
      obtain ⟨hlength, htoNat⟩ := (Bytes.eq_ofNat_iff (w := 8) id.raw.toNat_lt).1 rfl
      exact .shortChannelId hlength htoNat
    | varBytes v =>
      obtain ⟨hlength, htoNat⟩ := (Bytes.eq_ofNat_iff (w := 2) v.length_lt).1 rfl
      exact .varBytes hlength htoNat
    | idList list =>
      have hlt : list.body.length + 1 < 256 ^ 2 :=
        Nat.succ_lt_succ (Nat.lt_succ_of_le hcanonical.length_le)
      obtain ⟨hlength, htoNat⟩ := (Bytes.eq_ofNat_iff hlt).1 rfl
      -- The encoding is that of its own byte, since it is canonical.
      have hencoding : IdEncoding.ofByte list.encoding.byte = list.encoding :=
        IdEncoding.ofByte_eq_iff.2 ⟨hcanonical.encoding, rfl⟩
      have hspells : Spells .idList list.encode (.idList ⟨.ofByte list.encoding.byte, list.body⟩) :=
        .idList hlength htoNat
      rw [hencoding] at hspells
      exact hspells
    | remainder bytes => exact absurd rfl hkind

/-! ## Layouts -/

/-- The language of a layout, piece by piece: one string from the language of each slot's kind, and
    the fields that the pieces stand for. -/
inductive Layout.Spells : Layout → List Bytes → List (Field × Value) → Prop where
  | nil : Spells [] [] []
  | cons {slot : Slot} {layout : Layout} {piece : Bytes} {pieces : List Bytes} {v : Value}
      {fields : List (Field × Value)} (head : slot.kind.Spells piece v)
      (tail : Spells layout pieces fields) :
      Spells (slot :: layout) (piece :: pieces) ((slot.field, v) :: fields)

namespace Layout

variable {layout : Layout} {pieces : List Bytes} {fields : List (Field × Value)}

/-- `Layout.Spells` is what `Value.encode` gives for canonical fields, one piece for each. -/
theorem spells_iff (hlayout : ∀ slot ∈ layout, slot.kind ≠ .remainder) :
    layout.Spells pieces fields ↔ ofFields fields = layout ∧ (∀ f ∈ fields, f.2.IsCanonical) ∧
      pieces = fields.map fun f => f.2.encode := by
  constructor
  · intro h
    induction h with
    | nil => exact ⟨rfl, List.forall_mem_nil _, rfl⟩
    | @cons slot layout piece pieces v fields head tail ih =>
      obtain ⟨hkind, hcanonical, rfl⟩ :=
        (Kind.spells_iff (hlayout slot List.mem_cons_self)).1 head
      obtain ⟨rfl, hall, rfl⟩ := ih fun s hs => hlayout s (List.mem_cons_of_mem slot hs)
      refine ⟨?_, List.forall_mem_cons.2 ⟨hcanonical, hall⟩, rfl⟩
      rw [ofFields_cons, hkind]
  · intro h
    obtain ⟨rfl, hcanonical, rfl⟩ := h
    induction fields with
    | nil => exact .nil
    | cons f fields ih =>
      obtain ⟨hf, hcanonical⟩ := List.forall_mem_cons.1 hcanonical
      obtain ⟨hkind, hlayout⟩ := List.forall_mem_cons.1 hlayout
      exact .cons ((Kind.spells_iff hkind).2 ⟨rfl, hf, rfl⟩) (ih hlayout hcanonical)

/-- `Layout.read` accepts exactly the language of the layout, followed by anything. -/
theorem read_iff_spells (hlayout : ∀ slot ∈ layout, slot.kind ≠ .remainder) {bs rest : Bytes} :
    layout.read bs = .ok (fields, rest) ↔
      ∃ pieces, layout.Spells pieces fields ∧ bs = pieces.flatten ++ rest := by
  simp only [read_eq_ok_iff hlayout, spells_iff hlayout]
  constructor
  · intro h
    obtain ⟨hfields, hcanonical, rfl⟩ := h
    exact ⟨_, ⟨hfields, hcanonical, rfl⟩, rfl⟩
  · intro h
    obtain ⟨pieces, ⟨hfields, hcanonical, rfl⟩, rfl⟩ := h
    exact ⟨hfields, hcanonical, rfl⟩

/-- No string can be cut into the `pieces` of a layout and a `rest` in two ways. -/
theorem Spells.unique (hlayout : ∀ slot ∈ layout, slot.kind ≠ .remainder) {rest rest' : Bytes}
    {pieces' : List Bytes} {fields' : List (Field × Value)} (h : layout.Spells pieces fields)
    (h' : layout.Spells pieces' fields') (heq : pieces.flatten ++ rest = pieces'.flatten ++ rest') :
    pieces = pieces' ∧ fields = fields' ∧ rest = rest' := by
  -- The reader finds only one of them.
  have hread : layout.read (pieces.flatten ++ rest) = .ok (fields, rest) :=
    (read_iff_spells hlayout).2 ⟨pieces, h, rfl⟩
  have hread' : layout.read (pieces'.flatten ++ rest') = .ok (fields', rest') :=
    (read_iff_spells hlayout).2 ⟨pieces', h', rfl⟩
  rw [heq, hread', Except.ok.injEq, Prod.mk.injEq] at hread
  obtain ⟨rfl, hrest⟩ := hread
  obtain ⟨-, -, rfl⟩ := (spells_iff hlayout).1 h
  obtain ⟨-, -, rfl⟩ := (spells_iff hlayout).1 h'
  exact ⟨rfl, rfl, hrest.symm⟩

end Layout

end ChannelGossip
