import ChannelGossip.Proofs.Wire.Reading

/-! # Plain id lists

A list of ids is packed into a plain body of eight bytes each, and expanding the body gives the ids
back.  Main statements:

* `IdList.idsFrom_flatMap_encode`   expanding undoes packing
* `IdList.ids_plain`   a plain list is expanded to the ids it was packed from
* `IdList.exists_eq_plain`   every list in the plain encoding of whole ids was packed from some
* `IdList.ids_eq_ok_iff`, `IdList.ids_eq_error_iff`   which lists can be expanded
* `IdList.ofIds_eq_ok_iff`   which lists of ids fit
* `IdList.packs_and_expands`   packing and expanding undo each other, also over the wire -/

namespace ChannelGossip.IdList

/-- The plain list of the given ids, however many they are. -/
def plain (ids : List ShortChannelId) : IdList := ⟨.uncompressed, ids.flatMap ShortChannelId.encode⟩

/-- A plain body has eight bytes for each id. -/
theorem length_flatMap_encode (ids : List ShortChannelId) :
    (ids.flatMap ShortChannelId.encode).length = ids.length * ShortChannelId.width := by
  induction ids with
  | nil => rfl
  | cons id ids ih =>
    rw [List.flatMap_cons, List.length_append, ih, ShortChannelId.length_encode, List.length_cons,
      Nat.succ_mul, Nat.add_comm]

/-- `idsFrom` takes the id off a body that starts with `id.encode`. -/
theorem idsFrom_encode_append (read : List ShortChannelId) (id : ShortChannelId) (body : Bytes) :
    idsFrom read (id.encode ++ body) = idsFrom (id :: read) body := by
  have hsplit : Bytes.split? ShortChannelId.width (id.encode ++ body)
      = some (⟨id.encode, id.length_encode⟩, body) := Bytes.split?_eq_some_iff.2 rfl
  -- `idsFrom` cuts the body with `Bytes.split?`, which finds the id's bytes.
  rw [idsFrom.eq_def]
  split
  · rename_i head rest h
    rw [hsplit] at h
    obtain ⟨rfl, rfl⟩ := Prod.mk.inj (Option.some.inj h)
    rw [ShortChannelId.ofBytes_encode]
  · rename_i h
    rw [hsplit] at h
    cases h

/-- `idsFrom` ends at an empty body, with the ids in the order in which they were read. -/
theorem idsFrom_nil (read : List ShortChannelId) : idsFrom read [] = read.reverse := by
  have hsplit : Bytes.split? ShortChannelId.width [] = none :=
    Bytes.split?_eq_none_iff.2 (by decide)
  rw [idsFrom.eq_def]
  split
  · rename_i h
    rw [hsplit] at h
    cases h
  · rfl

/-- `idsFrom` undoes `ShortChannelId.encode` id by id, after the ids that it has `read` before. -/
theorem idsFrom_flatMap_encode (read ids : List ShortChannelId) :
    idsFrom read (ids.flatMap ShortChannelId.encode) = read.reverse ++ ids := by
  induction ids generalizing read with
  | nil => rw [List.flatMap_nil, idsFrom_nil, List.append_nil]
  | cons id ids ih =>
    rw [List.flatMap_cons, idsFrom_encode_append, ih, List.reverse_cons, List.append_assoc]
    rfl

/-- `ids` expands the plain list of some ids to these ids. -/
@[simp] theorem ids_plain (ids : List ShortChannelId) : (plain ids).ids = .ok ids := by
  have hlength : (plain ids).body.length % ShortChannelId.width = 0 := by
    show (ids.flatMap ShortChannelId.encode).length % ShortChannelId.width = 0
    rw [length_flatMap_encode, Nat.mul_mod_left]
  have hids : idsFrom [] (plain ids).body = ids := idsFrom_flatMap_encode [] ids
  rw [IdList.ids, if_neg (by simp [plain]), if_neg (by simp [hlength]), hids]

/-- A body of whole ids is packed from some. -/
theorem exists_flatMap_encode {body : Bytes} (h : body.length % ShortChannelId.width = 0) :
    ∃ ids : List ShortChannelId, body = ids.flatMap ShortChannelId.encode := by
  obtain ⟨count, hcount⟩ := Nat.dvd_of_mod_eq_zero h
  -- On the number of ids that the body has room for.
  induction count generalizing body with
  | zero =>
    obtain rfl : body = [] := List.length_eq_zero_iff.1 hcount
    exact ⟨[], rfl⟩
  | succ count ih =>
    -- The first eight bytes are one id, and the rest is packed from one id less.
    have hhead : (body.take ShortChannelId.width).length = ShortChannelId.width := by
      rw [List.length_take, hcount, Nat.mul_succ]
      omega
    have hrest : (body.drop ShortChannelId.width).length = ShortChannelId.width * count := by
      rw [List.length_drop, hcount, Nat.mul_succ, Nat.add_sub_cancel]
    obtain ⟨ids, hids⟩ := ih (by rw [hrest, Nat.mul_mod_right]) hrest
    refine ⟨.ofBytes (body.take ShortChannelId.width) :: ids, ?_⟩
    rw [List.flatMap_cons, ShortChannelId.encode_ofBytes hhead, ← hids, List.take_append_drop]

/-- A list in the plain encoding with a body of whole ids is `plain ids` for some ids. -/
theorem exists_eq_plain {list : IdList} (hencoding : list.encoding = .uncompressed)
    (h : list.body.length % ShortChannelId.width = 0) : ∃ ids, list = plain ids := by
  obtain ⟨ids, hids⟩ := exists_flatMap_encode h
  exact ⟨ids, by rw [plain, ← hencoding, ← hids]⟩

/-- `list.ids` gives `ids` exactly if `list` is their plain list. -/
theorem ids_eq_ok_iff {list : IdList} {ids : List ShortChannelId} :
    list.ids = .ok ids ↔ list = plain ids := by
  constructor
  · intro h
    obtain ⟨ids', rfl⟩ : ∃ ids', list = plain ids' := by
      -- Both checks have passed, and then `exists_eq_plain` applies.
      unfold IdList.ids at h
      split at h
      · cases h
      · rename_i hencoding
        split at h
        · cases h
        · rename_i hlength
          exact exists_eq_plain (not_not.1 hencoding) (not_not.1 hlength)
    rw [ids_plain] at h
    rw [Except.ok.inj h]
  · rintro rfl
    exact ids_plain ids

/-- `list.ids` succeeds exactly if the encoding is the plain one and the body divides into ids. -/
theorem exists_ids_eq_ok_iff {list : IdList} :
    (∃ ids, list.ids = .ok ids) ↔
      list.encoding = .uncompressed ∧ list.body.length % ShortChannelId.width = 0 := by
  constructor
  · rintro ⟨ids, h⟩
    obtain rfl := ids_eq_ok_iff.1 h
    refine ⟨rfl, ?_⟩
    show (ids.flatMap ShortChannelId.encode).length % ShortChannelId.width = 0
    rw [length_flatMap_encode, Nat.mul_mod_left]
  · rintro ⟨hencoding, hlength⟩
    obtain ⟨ids, rfl⟩ := exists_eq_plain hencoding hlength
    exact ⟨ids, ids_plain ids⟩

/-- `list.ids` fails exactly if the encoding is not the plain one or, if it is, the body does not
    divide into ids. -/
theorem ids_eq_error_iff {list : IdList} {e : Error} :
    list.ids = .error e ↔
      list.encoding ≠ .uncompressed ∧ e = .unsupportedEncoding list.encoding.byte ∨
      list.encoding = .uncompressed ∧ list.body.length % ShortChannelId.width ≠ 0 ∧
        e = .malformed (.raggedIds list.body.length) := by
  unfold IdList.ids
  by_cases hencoding : list.encoding = .uncompressed
  · by_cases hlength : list.body.length % ShortChannelId.width = 0
    · simp [hencoding, hlength]
    · simp [hencoding, hlength, eq_comm]
  · simp [hencoding, eq_comm]

/-- `ofIds` makes the plain list if the bytes of the ids fit. -/
theorem ofIds_eq_ok {ids : List ShortChannelId}
    (h : ids.length * ShortChannelId.width ≤ maxBody) : ofIds ids = .ok (plain ids) := by
  rw [ofIds, if_pos h]
  rfl

/-- `ofIds` succeeds exactly if the bytes of the ids fit, and then makes the plain list. -/
theorem ofIds_eq_ok_iff {ids : List ShortChannelId} {list : IdList} :
    ofIds ids = .ok list ↔ ids.length * ShortChannelId.width ≤ maxBody ∧ list = plain ids := by
  constructor
  · intro h
    unfold ofIds at h
    split at h
    · rename_i hfits
      exact ⟨hfits, (Except.ok.inj h).symm⟩
    · cases h
  · rintro ⟨hfits, rfl⟩
    exact ofIds_eq_ok hfits

/-- `ofIds` fails exactly if the bytes of the ids do not fit. -/
theorem exists_ofIds_eq_error_iff {ids : List ShortChannelId} :
    (∃ e, ofIds ids = .error e) ↔ maxBody < ids.length * ShortChannelId.width := by
  rw [ofIds, ← Nat.not_le]
  split
  · rename_i hfits
    exact ⟨fun ⟨_, h⟩ => (nomatch h), fun h => absurd hfits h⟩
  · rename_i hlong
    exact ⟨fun _ => hlong, fun _ => ⟨_, rfl⟩⟩

/-- `plain ids` is canonical if the bytes of the ids fit. -/
theorem isCanonical_plain {ids : List ShortChannelId}
    (h : ids.length * ShortChannelId.width ≤ maxBody) : (plain ids).IsCanonical where
  encoding := ⟨nofun, nofun⟩
  length_le := by
    show (ids.flatMap ShortChannelId.encode).length ≤ maxBody
    rw [length_flatMap_encode]
    exact h

/-- Up to 8191 ids fit a list, since the two bytes of its length count eight bytes for each id and
    the encoding byte. -/
theorem mul_width_le_maxBody_iff {count : Nat} :
    count * ShortChannelId.width ≤ maxBody ↔ count ≤ 8191 := by
  unfold ShortChannelId.width maxBody
  omega

/-- `ofIds` and `ids` undo each other, also over the wire.  Exactly up to 8191 ids are packed, and
    the list expands to them, as does what `takeIdList` reads where it was written, with nothing of
    the `rest`.  A list that was read expands exactly if its encoding byte is zero and its body
    divides into ids, and is what these ids are packed to. -/
theorem packs_and_expands :
    (∀ ids : List ShortChannelId,
      ((∃ list, ofIds ids = .ok list) ↔ ids.length ≤ 8191) ∧
      ∀ list, ofIds ids = .ok list →
        list.ids = .ok ids ∧
        ∀ rest, ∃ read, takeIdList (list.encode ++ rest) = .ok (read, rest) ∧ read.ids = .ok ids) ∧
    ∀ bytes list rest, takeIdList bytes = .ok (list, rest) →
      ((∃ ids, list.ids = .ok ids) ↔ list.encoding.byte = 0 ∧ list.body.length % 8 = 0) ∧
      ∀ ids, list.ids = .ok ids → ofIds ids = .ok list := by
  refine ⟨fun ids => ⟨?_, ?_⟩, ?_⟩
  · rw [← mul_width_le_maxBody_iff]
    constructor
    · rintro ⟨list, h⟩
      exact (ofIds_eq_ok_iff.1 h).1
    · intro hfits
      exact ⟨_, ofIds_eq_ok hfits⟩
  · -- What was written is read as the same plain list.
    intro list h
    obtain ⟨hfits, rfl⟩ := ofIds_eq_ok_iff.1 h
    refine ⟨ids_plain ids, fun rest => ⟨plain ids, ?_, ids_plain ids⟩⟩
    exact takeIdList_eq_ok_iff.2 ⟨isCanonical_plain hfits, rfl⟩
  · intro bytes list rest h
    obtain ⟨hcanonical, -⟩ := takeIdList_eq_ok_iff.1 h
    constructor
    · rw [hcanonical.encoding.byte_eq_zero_iff]
      exact exists_ids_eq_ok_iff
    · intro ids hids
      obtain rfl := ids_eq_ok_iff.1 hids
      refine ofIds_eq_ok_iff.2 ⟨?_, rfl⟩
      -- The body that was read is no longer than its length could say.
      rw [← length_flatMap_encode]
      exact hcanonical.length_le

end ChannelGossip.IdList
