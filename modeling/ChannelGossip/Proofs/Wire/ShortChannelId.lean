import ChannelGossip.Bytes.Number
import ChannelGossip.Proofs.Text.Numeral
import ChannelGossip.Wire.ShortChannelId

/-! # The parts of short channel ids

The block, the transaction and the output determine an id.  They are what it is packed from, what
its text names and what it is ordered by, so that sorted ids are grouped by block.  Main statements:

* `ofParts_eq_ok_iff`, `exists_ofParts_iff`   what is packed, and which parts can be
* `raw_lt_raw_iff`, `encode_lex_iff`   the order of ids as numbers and on the wire
* `Names`   which texts name which parts
* `parse_eq_ok_iff`, `names_text`   what is read, and what is printed
* `ordered_and_named_by_parts`   all of it together -/

namespace ChannelGossip.ShortChannelId

/-! ## Packing -/

/-- `block` has 24 bits. -/
theorem block_lt (id : ShortChannelId) : id.block < 0x1000000 := by
  have h := id.raw.toNat_lt
  unfold block
  omega

/-- So has `tx`. -/
theorem tx_lt (id : ShortChannelId) : id.tx < 0x1000000 := by
  unfold tx
  omega

/-- `output` has 16 bits. -/
theorem output_lt (id : ShortChannelId) : id.output < 0x10000 := by
  unfold output
  omega

/-- Ids with the same number are the same. -/
theorem raw_toNat_inj {a b : ShortChannelId} (h : a.raw.toNat = b.raw.toNat) : a = b := by
  have hraw : a.raw = b.raw := UInt64.toNat_inj.1 h
  cases a
  cases b
  rw [ShortChannelId.mk.injEq]
  exact hraw

/-- The number of an id is packed from `block`, `tx` and `output`. -/
theorem raw_toNat_eq (id : ShortChannelId) :
    id.raw.toNat = id.block * 0x10000000000 + id.tx * 0x10000 + id.output := by
  unfold block tx output
  omega

/-- `ofParts` packs the id that has these parts, and no other. -/
theorem ofParts_eq_ok_iff {block tx output : Nat} {id : ShortChannelId} :
    ofParts block tx output = .ok id ↔ id.block = block ∧ id.tx = tx ∧ id.output = output := by
  unfold ofParts
  constructor
  · intro h
    split at h
    · rename_i hfits
      obtain rfl := Except.ok.inj h
      -- Each part is below the weight of the one before it.
      have hraw : (UInt64.ofNat (block * 0x10000000000 + tx * 0x10000 + output)).toNat =
          block * 0x10000000000 + tx * 0x10000 + output :=
        UInt64.toNat_ofNat_of_lt' (by rw [UInt64.size]; omega)
      simp only [ShortChannelId.block, ShortChannelId.tx, ShortChannelId.output, hraw]
      omega
    · cases h
  · rintro ⟨rfl, rfl, rfl⟩
    rw [if_pos ⟨id.block_lt, id.tx_lt, id.output_lt⟩, ← raw_toNat_eq, UInt64.ofNat_toNat]

/-- `ofParts` succeeds exactly on parts that fit their bits. -/
theorem exists_ofParts_iff {block tx output : Nat} :
    (∃ id, ofParts block tx output = .ok id) ↔
      block < 0x1000000 ∧ tx < 0x1000000 ∧ output < 0x10000 := by
  unfold ofParts
  split
  · rename_i hfits
    exact iff_of_true ⟨_, rfl⟩ hfits
  · rename_i hfits
    refine iff_of_false ?_ hfits
    rintro ⟨id, h⟩
    cases h

/-- `ofParts` finds parts malformed that do not fit. -/
theorem exists_malformed_of_ofParts {block tx output : Nat} {e : Error}
    (h : ofParts block tx output = .error e) : ∃ cause, e = .malformed cause := by
  unfold ofParts at h
  split at h
  · cases h
  · exact ⟨_, (Except.error.inj h).symm⟩

/-! ## Order -/

/-- The block, the transaction in the block and the output of the transaction. -/
def parts (id : ShortChannelId) : Nat × Nat × Nat := (id.block, id.tx, id.output)

/-- The order of ids: by block, then by transaction, then by output. -/
def Precedes (a b : ShortChannelId) : Prop :=
  Prod.Lex (· < ·) (Prod.Lex (· < ·) (· < ·)) a.parts b.parts

/-- The numbers of ids are ordered by `Precedes`. -/
theorem raw_lt_raw_iff {a b : ShortChannelId} : a.raw < b.raw ↔ a.Precedes b := by
  -- Each part stays below the weight of the part before it, which `omega` is told.
  have ha := a.raw_toNat_eq
  have hb := b.raw_toNat_eq
  have hat := a.tx_lt
  have hbt := b.tx_lt
  have hao := a.output_lt
  have hbo := b.output_lt
  rw [Precedes, Prod.lex_def, Prod.lex_def, UInt64.lt_iff_toNat_lt]
  show _ ↔ a.block < b.block ∨ a.block = b.block ∧ (a.tx < b.tx ∨ a.tx = b.tx ∧ a.output < b.output)
  omega

/-- So are their bytes on the wire. -/
theorem encode_lex_iff {a b : ShortChannelId} :
    List.Lex (· < ·) a.encode b.encode ↔ a.Precedes b := by
  have hread : ∀ id : ShortChannelId, Bytes.toNat id.encode = id.raw.toNat := fun id => by
    rw [encode, Bytes.toNat_ofNat]
    exact Nat.mod_eq_of_lt id.raw.toNat_lt
  have hlength : a.encode.length = b.encode.length := by
    rw [encode, encode, Bytes.length_ofNat, Bytes.length_ofNat]
  rw [← Bytes.toNat_lt_toNat_iff hlength, hread, hread, ← UInt64.lt_iff_toNat_lt, raw_lt_raw_iff]

/-- Of two ids, the one with the lower number is not in a higher block. -/
theorem block_le_block {a b : ShortChannelId} (h : a.raw.toNat ≤ b.raw.toNat) : a.block ≤ b.block :=
  Nat.div_le_div_right h

/-- `sort` keeps the ids. -/
@[simp] theorem mem_sort {ids : List ShortChannelId} {id : ShortChannelId} :
    id ∈ sort ids ↔ id ∈ ids :=
  List.mem_mergeSort

/-- The ids of `sort` do not descend. -/
theorem sort_sorted (ids : List ShortChannelId) :
    (sort ids).Pairwise (·.raw.toNat ≤ ·.raw.toNat) := by
  have hsorted : (sort ids).Pairwise fun a b => decide (a.raw.toNat ≤ b.raw.toNat) = true :=
    List.pairwise_mergeSort (fun a b c hab hbc => by simp only [decide_eq_true_eq] at *; omega)
      (fun a b => by simp only [Bool.or_eq_true, decide_eq_true_eq]; omega) ids
  exact hsorted.imp of_decide_eq_true

/-- Ids that do not descend are what `sort` makes of them in any other order. -/
theorem sort_eq_of_perm {ids ids' : List ShortChannelId} (hperm : ids.Perm ids')
    (hsorted : ids'.Pairwise (·.raw.toNat ≤ ·.raw.toNat)) : sort ids = ids' := by
  -- Ids with the same number are the same, so no two of them can stand either way round.
  exact ((List.mergeSort_perm ids _).trans hperm).eq_of_pairwise
    (fun a b _ _ hab hba => raw_toNat_inj (Nat.le_antisymm hab hba)) (sort_sorted ids) hsorted

/-- The ids of `sort` ascend if none of them occurs twice. -/
theorem sort_ascending {ids : List ShortChannelId} (h : ids.Nodup) :
    (sort ids).Pairwise (·.raw.toNat < ·.raw.toNat) := by
  have hnodup : (sort ids).Nodup := (List.mergeSort_perm ids _).nodup_iff.2 h
  refine (sort_sorted ids).imp₂ (fun a b hle hne => ?_) hnodup
  have hne : a.raw.toNat ≠ b.raw.toNat := fun heq => hne (raw_toNat_inj heq)
  omega

/-! ## Text -/

/-- `text` names the parts of an id: cut at every `x` it falls into three numerals, for a block, a
    transaction and an output that fit their bits. -/
def Names (text : String) (block tx output : Nat) : Prop :=
  ∃ b t o, text.toList.splitOn 'x' = [b, t, o] ∧
    Text.Numeral.Spells b block ∧ Text.Numeral.Spells t tx ∧ Text.Numeral.Spells o output ∧
    block ≤ 0xFFFFFF ∧ tx ≤ 0xFFFFFF ∧ output ≤ 0xFFFF

/-- `text` prints the digits of the parts with an `x` between them. -/
theorem toList_text (id : ShortChannelId) :
    id.text.toList = ['x'].intercalate
      [Nat.toDigits 10 id.block, Nat.toDigits 10 id.tx, Nat.toDigits 10 id.output] := by
  have hx : (toString "x").toList = ['x'] := rfl
  simp [text, List.intercalate, hx]

/-- `text` names the parts of its id. -/
theorem names_text (id : ShortChannelId) : Names id.text id.block id.tx id.output := by
  have hblock := id.block_lt
  have htx := id.tx_lt
  have houtput := id.output_lt
  have hdigits : ∀ n, 'x' ∉ Nat.toDigits 10 n := Text.Numeral.notMem_toDigits rfl
  refine ⟨_, _, _, ?_, Text.Numeral.spells_toDigits _, Text.Numeral.spells_toDigits _,
    Text.Numeral.spells_toDigits _, by omega, by omega, by omega⟩
  rw [toList_text]
  -- No digit is an `x`, so the text is cut only where one was put.
  refine List.splitOn_intercalate 'x' ?_ (List.cons_ne_nil _ _)
  intro digits h
  simp only [List.mem_cons, List.not_mem_nil, or_false] at h
  rcases h with rfl | rfl | rfl
  · exact hdigits _
  · exact hdigits _
  · exact hdigits _

/-- `parse` reads a text as the id whose parts it names. -/
theorem parse_eq_ok_iff {text : String} {id : ShortChannelId} :
    parse text = .ok id ↔ Names text id.block id.tx id.output := by
  have hblock := id.block_lt
  have htx := id.tx_lt
  have houtput := id.output_lt
  have hsize : UInt32.size = 4294967296 := rfl
  have hsize' : UInt16.size = 65536 := rfl
  unfold parse Names
  constructor
  · intro h
    split at h
    · rename_i b t o hsplit
      split at h
      · rename_i block tx output hb ht ho
        obtain ⟨rfl, rfl, rfl⟩ := ofParts_eq_ok_iff.1 h
        exact ⟨b, t, o, hsplit, (Text.Numeral.parse?_eq_some_iff.1 hb).1,
          (Text.Numeral.parse?_eq_some_iff.1 ht).1, (Text.Numeral.parse?_eq_some_iff.1 ho).1,
          by omega, by omega, by omega⟩
      · cases h
    · cases h
  · rintro ⟨b, t, o, hsplit, hb, ht, ho, -⟩
    -- The limits of the machine numbers that are read first are no lower than those of the bits.
    have hblock := Text.Numeral.parse?_eq_some_iff.2 ⟨hb, (by omega : id.block < UInt32.size)⟩
    have htx := Text.Numeral.parse?_eq_some_iff.2 ⟨ht, (by omega : id.tx < UInt32.size)⟩
    have houtput := Text.Numeral.parse?_eq_some_iff.2 ⟨ho, (by omega : id.output < UInt16.size)⟩
    simp only [hsplit, hblock, htx, houtput]
    exact ofParts_eq_ok_iff.2 ⟨rfl, rfl, rfl⟩

/-- `parse` finds a text malformed if it does not read it. -/
theorem exists_malformed_of_parse {text : String} {e : Error} (h : parse text = .error e) :
    ∃ cause, e = .malformed cause := by
  unfold parse at h
  split at h
  · split at h
    · exact exists_malformed_of_ofParts h
    · exact ⟨_, (Except.error.inj h).symm⟩
  · exact ⟨_, (Except.error.inj h).symm⟩

/-! ## All together -/

/-- An id is packed from its parts and no others, its `text` names them, and ids are ordered by them
    as numbers and on the wire, so that the ids of `sort` ascend by block.  Exactly the texts that
    name parts are read by `parse`, as the ids with these parts, and all others are malformed. -/
theorem ordered_and_named_by_parts :
    (∀ id : ShortChannelId,
      ofParts id.block id.tx id.output = .ok id ∧ parse id.text = .ok id) ∧
    (∀ (block tx : UInt32) (output : UInt16),
      ((∃ id, ofParts block.toNat tx.toNat output.toNat = .ok id) ↔
        block.toNat ≤ 0xFFFFFF ∧ tx.toNat ≤ 0xFFFFFF) ∧
      ∀ id, ofParts block.toNat tx.toNat output.toNat = .ok id →
        id.block = block.toNat ∧ id.tx = tx.toNat ∧ id.output = output.toNat) ∧
    (∀ a b : ShortChannelId,
      (a.raw < b.raw ↔ a.Precedes b) ∧ (List.Lex (· < ·) a.encode b.encode ↔ a.Precedes b)) ∧
    (∀ ids : List ShortChannelId, (sort ids).Perm ids ∧
      (sort ids).Pairwise (fun a b => ¬b.Precedes a) ∧ (sort ids).Pairwise (·.block ≤ ·.block)) ∧
    (∀ text block tx output, Names text block tx output ↔
      ∃ id, parse text = .ok id ∧ id.block = block ∧ id.tx = tx ∧ id.output = output) ∧
    ∀ text, (∃ id, parse text = .ok id) ∨ ∃ cause, parse text = .error (.malformed cause) := by
  refine ⟨fun id => ?_, fun block tx output => ?_, fun a b => ?_, fun ids => ?_,
    fun text block tx output => ?_, fun text => ?_⟩
  · exact ⟨ofParts_eq_ok_iff.2 ⟨rfl, rfl, rfl⟩, parse_eq_ok_iff.2 id.names_text⟩
  · -- An output of 16 bits always fits, a block and a transaction of 32 bits may not.
    have houtput : output.toNat < 65536 := output.toNat_lt
    refine ⟨?_, fun id h => ofParts_eq_ok_iff.1 h⟩
    rw [exists_ofParts_iff]
    omega
  · exact ⟨raw_lt_raw_iff, encode_lex_iff⟩
  · have hsorted := sort_sorted ids
    refine ⟨List.mergeSort_perm ids _, hsorted.imp fun hle hlt => ?_,
      hsorted.imp fun hle => block_le_block hle⟩
    rw [← raw_lt_raw_iff, UInt64.lt_iff_toNat_lt] at hlt
    omega
  · constructor
    · intro h
      -- The limits in `Names` are those of `ofParts`.
      obtain ⟨id, hid⟩ : ∃ id, ofParts block tx output = .ok id := by
        obtain ⟨-, -, -, -, -, -, -, hfits⟩ := h
        rw [exists_ofParts_iff]
        omega
      obtain ⟨rfl, rfl, rfl⟩ := ofParts_eq_ok_iff.1 hid
      exact ⟨id, parse_eq_ok_iff.2 h, rfl, rfl, rfl⟩
    · rintro ⟨id, h, rfl, rfl, rfl⟩
      exact parse_eq_ok_iff.1 h
  · cases h : parse text with
    | ok id => exact .inl ⟨id, rfl⟩
    | error e =>
      obtain ⟨cause, rfl⟩ := exists_malformed_of_parse h
      exact .inr ⟨cause, rfl⟩

end ChannelGossip.ShortChannelId
