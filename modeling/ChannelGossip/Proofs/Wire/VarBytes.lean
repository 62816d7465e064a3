import Mathlib.Data.Nat.Bitwise
import ChannelGossip.Bytes.Number
import ChannelGossip.Wire.VarBytes

/-! # Feature bits

The bits of a byte string are numbered from its end, eight to a byte.  A bit is found with a mask in
the byte that has as many behind it as there are whole bytes below the bit, and past the first byte
no bit is set.  Main statements:

* `hasBit_eq_any_reverse`   where a bit is found
* `hasBit_concat`   a byte at the end takes the lowest eight bits and moves the others up
* `hasBit_eq_testBit`   the bits are those of the number that the bytes spell
* `hasBit_reads_big_endian_number`   so zeros in front change none of them -/

namespace ChannelGossip.VarBytes

/-! ## Where a bit is found -/

/-- The mask `1 <<< k` tells bit `k` of a byte's number, for `k` below eight. -/
theorem and_shiftLeft_bne_zero (b : UInt8) {k : Nat} (hk : k < 8) :
    (b &&& 1 <<< UInt8.ofNat k != 0) = b.toNat.testBit k := by
  -- The shift does not lose the one, since it stays below eight places.
  have hmask : ((1 : UInt8) <<< UInt8.ofNat k).toNat = 2 ^ k := by
    have hshift : (UInt8.ofNat k).toNat % 8 = k := by
      rw [UInt8.toNat_ofNat']
      omega
    have hfits : 2 ^ k < 2 ^ 8 := Nat.pow_lt_pow_right (by decide) hk
    rw [UInt8.toNat_shiftLeft, hshift, UInt8.toNat_one, Nat.one_shiftLeft, Nat.mod_eq_of_lt hfits]
  have hpos : 0 < 2 ^ k := Nat.two_pow_pos k
  rw [Bool.eq_iff_iff, bne_iff_ne, ne_eq, ← UInt8.toNat_inj, UInt8.toNat_and, hmask,
    Nat.and_two_pow, UInt8.toNat_zero]
  cases b.toNat.testBit k with
  | false => simp
  | true => simp

/-- `hasBit i` looks at bit `i % 8` of the byte at place `i / 8` from the end, if there is such a
    byte. -/
theorem hasBit_eq_any_reverse (v : VarBytes) (i : Nat) :
    v.hasBit i = v.bytes.reverse[i / 8]?.any fun b => b.toNat.testBit (i % 8) := by
  have hmask : (fun b : UInt8 => b &&& 1 <<< UInt8.ofNat (i % 8) != 0)
      = fun b => b.toNat.testBit (i % 8) :=
    funext fun b => and_shiftLeft_bne_zero b (Nat.mod_lt i (by decide))
  simp only [hasBit]
  -- Past the first byte the reversed string has no byte either.
  split
  · rename_i hpast
    rw [List.getElem?_eq_none (by rw [List.length_reverse]; exact hpast), Option.any_none]
  · rename_i hbyte
    rw [hmask, List.getElem?_reverse (Nat.lt_of_not_le hbyte)]

/-! ## The number -/

/-- One more byte `b` at the end takes the lowest eight bits and moves the others up. -/
theorem hasBit_concat {v longer : VarBytes} {b : UInt8} (h : longer.bytes = v.bytes ++ [b])
    (i : Nat) : longer.hasBit i = if i < 8 then b.toNat.testBit i else v.hasBit (i - 8) := by
  rw [hasBit_eq_any_reverse, hasBit_eq_any_reverse, h, List.reverse_concat]
  split
  · rename_i hi
    rw [Nat.div_eq_of_lt hi, Nat.mod_eq_of_lt hi, List.getElem?_cons_zero, Option.any_some]
  · rename_i hi
    obtain ⟨j, rfl⟩ := Nat.exists_eq_add_of_le' (Nat.le_of_not_lt hi)
    rw [Nat.add_sub_cancel, Nat.add_div_right j (by decide), Nat.add_mod_right,
      List.getElem?_cons_succ]

/-- `hasBit` tells the bits of `Bytes.toNat`. -/
theorem hasBit_eq_testBit (v : VarBytes) (i : Nat) :
    v.hasBit i = (Bytes.toNat v.bytes).testBit i := by
  obtain ⟨bytes, hlength⟩ := v
  -- From the end of the bytes, where bits and digits are both counted from.
  induction bytes using List.reverseRecOn generalizing i with
  | nil =>
    rw [hasBit_eq_any_reverse, Bytes.toNat_nil, Nat.zero_testBit]
    rfl
  | append_singleton bytes b ih =>
    have hshorter : bytes.length < UInt16.size := by
      rw [List.length_append] at hlength
      omega
    rw [hasBit_concat (v := ⟨bytes, hshorter⟩) rfl, Bytes.testBit_toNat_concat, ih]

/-- Strings with the same `Bytes.toNat` have the same bits set. -/
theorem hasBit_eq_of_toNat_eq {v w : VarBytes} (h : Bytes.toNat v.bytes = Bytes.toNat w.bytes)
    (i : Nat) : v.hasBit i = w.hasBit i := by
  rw [hasBit_eq_testBit, hasBit_eq_testBit, h]

/-- `hasBit i` is true exactly if bit `i` is a one in the number whose big-endian bytes `v` has,
    however large `i` is.  As many `zeros` in front of the bytes as still make a string change no
    bit, and one byte `b` behind them moves every bit up by eight. -/
theorem hasBit_reads_big_endian_number (v : VarBytes) :
    (∀ i, v.hasBit i = true ↔ Bytes.toNat v.bytes / 2 ^ i % 2 = 1) ∧
    (∀ zeros, zeros + v.bytes.length < UInt16.size →
      ∃ padded, ofBytes (List.replicate zeros 0 ++ v.bytes) = .ok padded ∧
        ∀ i, padded.hasBit i = v.hasBit i) ∧
    ∀ b, v.bytes.length + 1 < UInt16.size →
      ∃ longer, ofBytes (v.bytes ++ [b]) = .ok longer ∧
        ∀ i, longer.hasBit (i + 8) = v.hasBit i := by
  refine ⟨fun i => ?_, fun zeros hfits => ?_, fun b hfits => ?_⟩
  · rw [hasBit_eq_testBit, Nat.testBit_eq_decide_div_mod_eq, decide_eq_true_iff]
  · -- Zeros in front leave the number as it is.
    have hlength : (List.replicate zeros 0 ++ v.bytes).length < UInt16.size := by
      rw [List.length_append, List.length_replicate]
      exact hfits
    refine ⟨⟨_, hlength⟩, ofBytes_bytes ⟨_, hlength⟩, fun i => ?_⟩
    exact hasBit_eq_of_toNat_eq (Bytes.toNat_replicate_zero_append zeros v.bytes) i
  · -- A byte behind is the last byte of `hasBit_concat`.
    have hlength : (v.bytes ++ [b]).length < UInt16.size := by
      rw [List.length_append, List.length_singleton]
      exact hfits
    refine ⟨⟨_, hlength⟩, ofBytes_bytes ⟨_, hlength⟩, fun i => ?_⟩
    rw [hasBit_concat rfl, if_neg (by omega), Nat.add_sub_cancel]

/-- Two bytes with the bits 0 and 9, the longest string that ends in them, and the two with one more
    byte. -/
theorem hasBit_reads_two_bytes :
    let v : VarBytes := ⟨[0x02, 0x01], by decide⟩
    v.hasBit 9 = true ∧ v.hasBit 64 = false ∧
      (65533 + v.bytes.length < UInt16.size ∧
        ∃ padded, ofBytes (List.replicate 65533 0 ++ v.bytes) = .ok padded ∧
          padded.hasBit 9 = true ∧ padded.hasBit 64 = false) ∧
      v.bytes.length + 1 < UInt16.size ∧
        ∃ longer, ofBytes [0x02, 0x01, 0x80] = .ok longer ∧
          longer.hasBit 17 = true ∧ longer.hasBit 72 = false := by
  intro v
  have hpadding : 65533 + v.bytes.length < UInt16.size := by decide
  have hroom : v.bytes.length + 1 < UInt16.size := by decide
  obtain ⟨hbits, hzeros, hbyte⟩ := hasBit_reads_big_endian_number v
  -- The number is 513, with the bits 0 and 9 set.
  have hset : v.hasBit 9 = true := (hbits 9).2 (by decide)
  have hclear : v.hasBit 64 = false := Bool.eq_false_iff.2 (mt (hbits 64).1 (by decide))
  obtain ⟨padded, hpadded, hsame⟩ := hzeros 65533 hpadding
  obtain ⟨longer, hlonger, hmoved⟩ := hbyte 0x80 hroom
  exact ⟨hset, hclear, ⟨hpadding, padded, hpadded, (hsame 9).trans hset, (hsame 64).trans hclear⟩,
    hroom, longer, hlonger, (hmoved 9).trans hset, (hmoved 64).trans hclear⟩

end ChannelGossip.VarBytes
