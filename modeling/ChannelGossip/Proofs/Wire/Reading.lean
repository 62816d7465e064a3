import ChannelGossip.Bytes.Number
import ChannelGossip.Proofs.Except
import ChannelGossip.Wire.Value

/-! # Reading and writing values

A reader accepts exactly what the writer produces, followed by anything.  Main statements:

* `takeNat_eq_ok_iff`   a number of `n` bytes is read exactly from its own `n` bytes
* `takeVarBytes_eq_ok_iff`   the same for bytes behind a length
* `takeIdList_eq_ok_iff`   the same for id lists, of which only the canonical ones are read
* `Kind.read_eq_ok_iff`   the same for a value of any kind but the remainder -/

namespace ChannelGossip

/-! ## Pieces -/

/-- `takeBytes n` takes the bytes `head` off exactly the strings that start with them. -/
theorem takeBytes_eq_ok_iff {n : Nat} {bs rest : Bytes} {head : { h : Bytes // h.length = n }} :
    takeBytes n bs = .ok (head, rest) ↔ bs = head.1 ++ rest := by
  rw [← Bytes.split?_eq_some_iff]
  unfold takeBytes
  cases Bytes.split? n bs with
  | none => simp
  | some r => simp

/-- `takeBytes n` fails exactly on strings of fewer than `n` bytes, and tells both numbers. -/
theorem takeBytes_eq_error_iff {n : Nat} {bs : Bytes} {e : Error} :
    takeBytes n bs = .error e ↔ bs.length < n ∧ e = .underflow none n bs.length := by
  rw [← Bytes.split?_eq_none_iff]
  unfold takeBytes
  cases Bytes.split? n bs with
  | none => simp [eq_comm]
  | some r => simp

/-- `takeNat n` reads `k` exactly from what `Bytes.ofNat n k` writes, followed by `rest`. -/
theorem takeNat_eq_ok_iff {n k : Nat} {bs rest : Bytes} :
    takeNat n bs = .ok (k, rest) ↔ k < 256 ^ n ∧ bs = Bytes.ofNat n k ++ rest := by
  simp only [takeNat, Except.bind_eq_ok_iff, pure, Except.pure, Except.ok.injEq, Prod.mk.injEq]
  constructor
  · intro h
    obtain ⟨⟨head, rest⟩, htake, rfl, rfl⟩ := h
    -- The bytes that were taken are those of their own number.
    have hlt := Bytes.toNat_lt head.1
    have hwrite := Bytes.ofNat_toNat head.1
    rw [head.2] at hlt hwrite
    exact ⟨hlt, by rw [hwrite, takeBytes_eq_ok_iff.1 htake]⟩
  · intro h
    obtain ⟨hlt, rfl⟩ := h
    refine ⟨(⟨Bytes.ofNat n k, Bytes.length_ofNat n k⟩, rest), takeBytes_eq_ok_iff.2 rfl, ?_, rfl⟩
    rw [Bytes.toNat_ofNat, Nat.mod_eq_of_lt hlt]

/-- `takeNat n` fails exactly on strings of fewer than `n` bytes. -/
theorem takeNat_eq_error_iff {n : Nat} {bs : Bytes} {e : Error} :
    takeNat n bs = .error e ↔ bs.length < n ∧ e = .underflow none n bs.length := by
  simp only [takeNat, Except.bind_eq_error_iff, takeBytes_eq_error_iff, pure, Except.pure,
    reduceCtorEq, and_false, exists_false, or_false]

/-- `takeVarBytes` reads `v` exactly from what `VarBytes.encode` writes for it, followed by
    `rest`. -/
theorem takeVarBytes_eq_ok_iff {v : VarBytes} {bs rest : Bytes} :
    takeVarBytes bs = .ok (v, rest) ↔ bs = v.encode ++ rest := by
  simp only [takeVarBytes, Except.bind_eq_ok_iff]
  constructor
  · intro h
    obtain ⟨⟨n, rest₁⟩, hlen, h⟩ := h
    obtain ⟨hlt, rfl⟩ := takeNat_eq_ok_iff.1 hlen
    -- A length of two bytes is not cut down when it is stored.
    have hn : (UInt16.ofNat n).toNat = n := UInt16.toNat_ofNat_of_lt' hlt
    cases hs : Bytes.split? (UInt16.ofNat n).toNat rest₁ with
    | none => simp [hs] at h
    | some r =>
      obtain ⟨body, rest₂⟩ := r
      simp only [hs, pure, Except.pure, Except.ok.injEq, Prod.mk.injEq] at h
      obtain ⟨rfl, rfl⟩ := h
      have hbody : body.1.length = n := body.2.trans hn
      rw [Bytes.split?_eq_some_iff.1 hs]
      show _ = Bytes.ofNat 2 body.1.length ++ body.1 ++ rest₂
      rw [hbody, List.append_assoc]
  · intro h
    subst h
    -- Back again: the length is read first, and then says how many bytes to take.
    have hlt : v.bytes.length < 256 ^ 2 := v.length_lt
    have hn : (UInt16.ofNat v.bytes.length).toNat = v.bytes.length :=
      UInt16.toNat_ofNat_of_lt' v.length_lt
    refine ⟨(v.bytes.length, v.bytes ++ rest), ?_, ?_⟩
    · rw [takeNat_eq_ok_iff, VarBytes.encode, List.append_assoc]
      exact ⟨hlt, rfl⟩
    · have hs : Bytes.split? (UInt16.ofNat v.bytes.length).toNat (v.bytes ++ rest)
          = some (⟨v.bytes, hn.symm⟩, rest) := Bytes.split?_eq_some_iff.2 rfl
      simp [hs, pure, Except.pure]

/-! ## Short channel ids -/

namespace ShortChannelId

/-- `encode` writes eight bytes. -/
@[simp] theorem length_encode (id : ShortChannelId) : id.encode.length = width :=
  Bytes.length_ofNat _ _

/-- `ofBytes` undoes `encode`. -/
@[simp] theorem ofBytes_encode (id : ShortChannelId) : ofBytes id.encode = id := by
  have hlt : id.raw.toNat < 256 ^ width := id.raw.toNat_lt
  rw [ofBytes, encode, Bytes.toNat_ofNat, Nat.mod_eq_of_lt hlt, UInt64.ofNat_toNat]

/-- `encode` undoes `ofBytes` on eight bytes. -/
theorem encode_ofBytes {bs : Bytes} (h : bs.length = width) : (ofBytes bs).encode = bs := by
  have hlt : Bytes.toNat bs < 256 ^ width := h ▸ Bytes.toNat_lt bs
  show Bytes.ofNat width (UInt64.ofNat (Bytes.toNat bs)).toNat = bs
  rw [UInt64.toNat_ofNat_of_lt' hlt, ← h, Bytes.ofNat_toNat]

end ShortChannelId

/-! ## Id lists -/

namespace IdEncoding

/-- An encoding that `ofByte` gives for some byte. -/
def IsCanonical (e : IdEncoding) : Prop := e ≠ .other 0 ∧ e ≠ .other 1

instance (e : IdEncoding) : Decidable e.IsCanonical := inferInstanceAs (Decidable (_ ∧ _))

/-- `ofByte` gives exactly the canonical encoding that `byte` writes as that byte. -/
theorem ofByte_eq_iff {b : UInt8} {e : IdEncoding} :
    ofByte b = e ↔ e.IsCanonical ∧ e.byte = b := by
  constructor
  · intro h
    subst h
    refine ⟨⟨?_, ?_⟩, byte_ofByte b⟩ <;> unfold ofByte <;> split <;> simp_all <;> split <;> simp_all
  · intro h
    obtain ⟨⟨h0, h1⟩, rfl⟩ := h
    -- Only `other` can be announced by the wrong byte, which `IsCanonical` excludes.
    cases e with
    | uncompressed => rfl
    | zlib => rfl
    | other b => simp_all [ofByte, byte]

/-- Of the canonical encodings only `uncompressed` is written as zero. -/
theorem IsCanonical.byte_eq_zero_iff {e : IdEncoding} (h : e.IsCanonical) :
    e.byte = 0 ↔ e = .uncompressed := by
  rw [← ofByte_eq_iff.2 ⟨h, rfl⟩, byte_ofByte]
  constructor
  · intro hzero
    rw [hzero]
    rfl
  · intro huncompressed
    rw [← byte_ofByte e.byte, huncompressed]
    rfl

end IdEncoding

/-- An id list that can be told from its bytes: its encoding is named by the byte it is written as,
    and its length fits the two bytes in front of it. -/
structure IdList.IsCanonical (list : IdList) : Prop where
  encoding : list.encoding.IsCanonical
  length_le : list.body.length ≤ IdList.maxBody

/-- `takeIdList` reads `list` exactly from what `IdList.encode` writes for it, followed by `rest`,
    and reads canonical lists only. -/
theorem takeIdList_eq_ok_iff {list : IdList} {bs rest : Bytes} :
    takeIdList bs = .ok (list, rest) ↔ list.IsCanonical ∧ bs = list.encode ++ rest := by
  simp only [takeIdList, Except.bind_eq_ok_iff]
  constructor
  · intro h
    obtain ⟨⟨n, rest₁⟩, hlen, h⟩ := h
    obtain ⟨hlt, rfl⟩ := takeNat_eq_ok_iff.1 hlen
    -- The length counts the encoding byte, so that it cannot be zero.
    by_cases hz : n = 0
    · simp [hz, throw, throwThe, MonadExceptOf.throw, bind, Except.bind] at h
    · simp only [hz, if_false] at h
      cases hs : Bytes.split? n rest₁ with
      | none => simp [hs] at h
      | some r =>
        obtain ⟨⟨head, hhead⟩, rest₂⟩ := r
        -- The first byte that is taken announces the encoding.
        cases head with
        | nil => exact absurd hhead.symm hz
        | cons b body =>
          simp only [hs, pure, Except.pure, Except.ok.injEq, Prod.mk.injEq] at h
          obtain ⟨rfl, rfl⟩ := h
          have hbody : body.length + 1 = n := hhead
          refine ⟨⟨(IdEncoding.ofByte_eq_iff.1 rfl).1, ?_⟩, ?_⟩
          · show body.length ≤ 65534
            omega
          · rw [Bytes.split?_eq_some_iff.1 hs]
            show _ = Bytes.ofNat 2 (body.length + 1) ++ (IdEncoding.ofByte b).byte :: body ++ rest₂
            rw [hbody, IdEncoding.byte_ofByte, List.append_assoc]
  · intro h
    obtain ⟨⟨hencoding, hlength⟩, rfl⟩ := h
    -- Back again: the length counts the encoding byte and the body, which are then taken.
    have hlt : list.body.length + 1 < 256 ^ 2 := by
      have : list.body.length ≤ 65534 := hlength
      omega
    refine ⟨(list.body.length + 1, list.encoding.byte :: list.body ++ rest), ?_, ?_⟩
    · rw [takeNat_eq_ok_iff, IdList.encode, List.append_assoc]
      exact ⟨hlt, rfl⟩
    · have hs : Bytes.split? (list.body.length + 1) (list.encoding.byte :: list.body ++ rest)
          = some (⟨list.encoding.byte :: list.body, rfl⟩, rest) := Bytes.split?_eq_some_iff.2 rfl
      have henc : IdEncoding.ofByte list.encoding.byte = list.encoding :=
        IdEncoding.ofByte_eq_iff.2 ⟨hencoding, rfl⟩
      simp only [Nat.add_eq_zero_iff, Nat.one_ne_zero, and_false, if_false, hs, henc]
      rfl

/-! ## Values -/

namespace Value

/-- A value that can be told from its bytes: every value but an `idList` that is not canonical. -/
def IsCanonical : Value → Prop
  | idList list => list.IsCanonical
  | _ => True

/-! The kind of a value tells its constructor. -/

theorem kind_eq_messageType_iff {v : Value} :
    v.kind = .messageType ↔ ∃ id, v = .messageType id := by
  cases v <;> simp [kind]

theorem kind_eq_u8_iff {v : Value} : v.kind = .u8 ↔ ∃ n, v = .u8 n := by
  cases v <;> simp [kind]

theorem kind_eq_u16_iff {v : Value} : v.kind = .u16 ↔ ∃ n, v = .u16 n := by
  cases v <;> simp [kind]

theorem kind_eq_u32_iff {v : Value} : v.kind = .u32 ↔ ∃ n, v = .u32 n := by
  cases v <;> simp [kind]

theorem kind_eq_u64_iff {v : Value} : v.kind = .u64 ↔ ∃ n, v = .u64 n := by
  cases v <;> simp [kind]

theorem kind_eq_fixed_iff {k : FixedKind} {v : Value} :
    v.kind = .fixed k ↔ ∃ x : FixedBytes k, v = .fixed x := by
  constructor
  · intro h
    cases v with
    | fixed x =>
      simp only [kind, Kind.fixed.injEq] at h
      subst h
      exact ⟨x, rfl⟩
    | _ => simp [kind] at h
  · intro h
    obtain ⟨x, rfl⟩ := h
    rfl

theorem kind_eq_shortChannelId_iff {v : Value} :
    v.kind = .shortChannelId ↔ ∃ id, v = .shortChannelId id := by
  cases v <;> simp [kind]

theorem kind_eq_varBytes_iff {v : Value} : v.kind = .varBytes ↔ ∃ x, v = .varBytes x := by
  cases v <;> simp [kind]

theorem kind_eq_idList_iff {v : Value} : v.kind = .idList ↔ ∃ list, v = .idList list := by
  cases v <;> simp [kind]

end Value

/-- If `hlt`, `hmake` and `htoNat` make `make` the inverse of `toNat`, then reading a number of
    fixed `width` and wrapping it gives exactly the values that are written as that number. -/
private theorem takeNat_value_iff {α : Type} {kind : Kind} {width : Nat} {make : Nat → α}
    {toNat : α → Nat} {wrap : α → Value}
    (hlt : ∀ a, toNat a < 256 ^ width) (hmake : ∀ a, make (toNat a) = a)
    (htoNat : ∀ k, k < 256 ^ width → toNat (make k) = k)
    (hkind : ∀ v : Value, v.kind = kind ↔ ∃ a, v = wrap a) (hcanonical : ∀ a, (wrap a).IsCanonical)
    (hencode : ∀ a, (wrap a).encode = Bytes.ofNat width (toNat a))
    {bs rest : Bytes} {v : Value} :
    (∃ p, takeNat width bs = .ok p ∧ wrap (make p.1) = v ∧ p.2 = rest)
      ↔ v.kind = kind ∧ v.IsCanonical ∧ bs = v.encode ++ rest := by
  constructor
  · intro h
    obtain ⟨⟨k, rest⟩, htake, rfl, rfl⟩ := h
    obtain ⟨hk, rfl⟩ := takeNat_eq_ok_iff.1 htake
    refine ⟨(hkind _).2 ⟨_, rfl⟩, hcanonical _, ?_⟩
    rw [hencode, htoNat k hk]
  · intro h
    obtain ⟨hv, -, rfl⟩ := h
    obtain ⟨a, rfl⟩ := (hkind v).1 hv
    refine ⟨(toNat a, rest), takeNat_eq_ok_iff.2 ⟨hlt a, by rw [hencode]⟩, ?_, rfl⟩
    rw [hmake]

/-- A byte is its own number in one byte. -/
theorem ofNat_one_toNat (n : UInt8) : [n] = Bytes.ofNat 1 n.toNat := by
  simp [Bytes.ofNat]

/-- `kind.read` reads `v` exactly from what `Value.encode` writes for it, if `v` is canonical and of
    that kind.  The remainder is different since nothing is left after it. -/
theorem Kind.read_eq_ok_iff {kind : Kind} (hkind : kind ≠ .remainder) {bs rest : Bytes}
    {v : Value} :
    kind.read bs = .ok (v, rest) ↔ v.kind = kind ∧ v.IsCanonical ∧ bs = v.encode ++ rest := by
  cases kind <;>
    simp only [Kind.read, Except.bind_eq_ok_iff, pure, Except.pure, Except.ok.injEq, Prod.mk.injEq]
  -- Numbers differ in nothing but their width and the type that they are stored in.
  case messageType =>
    exact takeNat_value_iff UInt16.toNat_lt (fun _ => UInt16.ofNat_toNat)
      (fun _ h => UInt16.toNat_ofNat_of_lt' h) (fun _ => Value.kind_eq_messageType_iff)
      (fun _ => trivial) (fun _ => rfl)
  case u8 =>
    exact takeNat_value_iff UInt8.toNat_lt (fun _ => UInt8.ofNat_toNat)
      (fun _ h => UInt8.toNat_ofNat_of_lt' h) (fun _ => Value.kind_eq_u8_iff)
      (fun _ => trivial) ofNat_one_toNat
  case u16 =>
    exact takeNat_value_iff UInt16.toNat_lt (fun _ => UInt16.ofNat_toNat)
      (fun _ h => UInt16.toNat_ofNat_of_lt' h) (fun _ => Value.kind_eq_u16_iff)
      (fun _ => trivial) (fun _ => rfl)
  case u32 =>
    exact takeNat_value_iff UInt32.toNat_lt (fun _ => UInt32.ofNat_toNat)
      (fun _ h => UInt32.toNat_ofNat_of_lt' h) (fun _ => Value.kind_eq_u32_iff)
      (fun _ => trivial) (fun _ => rfl)
  case u64 =>
    exact takeNat_value_iff UInt64.toNat_lt (fun _ => UInt64.ofNat_toNat)
      (fun _ h => UInt64.toNat_ofNat_of_lt' h) (fun _ => Value.kind_eq_u64_iff)
      (fun _ => trivial) (fun _ => rfl)
  -- Everything else has a reader of its own.
  case fixed kind =>
    constructor
    · intro h
      obtain ⟨⟨head, rest⟩, htake, rfl, rfl⟩ := h
      exact ⟨rfl, trivial, takeBytes_eq_ok_iff.1 htake⟩
    · intro h
      obtain ⟨hv, -, rfl⟩ := h
      obtain ⟨x, rfl⟩ := Value.kind_eq_fixed_iff.1 hv
      exact ⟨(⟨x.bytes, x.length_eq⟩, rest), takeBytes_eq_ok_iff.2 rfl, rfl, rfl⟩
  case shortChannelId =>
    constructor
    · intro h
      obtain ⟨⟨head, rest⟩, htake, rfl, rfl⟩ := h
      refine ⟨rfl, trivial, ?_⟩
      rw [takeBytes_eq_ok_iff.1 htake]
      show _ = (ShortChannelId.ofBytes head.1).encode ++ rest
      rw [ShortChannelId.encode_ofBytes head.2]
    · intro h
      obtain ⟨hv, -, rfl⟩ := h
      obtain ⟨id, rfl⟩ := Value.kind_eq_shortChannelId_iff.1 hv
      exact ⟨(⟨id.encode, id.length_encode⟩, rest), takeBytes_eq_ok_iff.2 rfl,
        congrArg Value.shortChannelId id.ofBytes_encode, rfl⟩
  case varBytes =>
    constructor
    · intro h
      obtain ⟨⟨x, rest⟩, htake, rfl, rfl⟩ := h
      exact ⟨rfl, trivial, takeVarBytes_eq_ok_iff.1 htake⟩
    · intro h
      obtain ⟨hv, -, rfl⟩ := h
      obtain ⟨x, rfl⟩ := Value.kind_eq_varBytes_iff.1 hv
      exact ⟨(x, rest), takeVarBytes_eq_ok_iff.2 rfl, rfl, rfl⟩
  case idList =>
    constructor
    · intro h
      obtain ⟨⟨list, rest⟩, htake, rfl, rfl⟩ := h
      obtain ⟨hcanonical, hbs⟩ := takeIdList_eq_ok_iff.1 htake
      exact ⟨rfl, hcanonical, hbs⟩
    · intro h
      obtain ⟨hv, hcanonical, rfl⟩ := h
      obtain ⟨list, rfl⟩ := Value.kind_eq_idList_iff.1 hv
      exact ⟨(list, rest), takeIdList_eq_ok_iff.2 ⟨hcanonical, rfl⟩, rfl, rfl⟩
  case remainder => exact absurd rfl hkind

end ChannelGossip
