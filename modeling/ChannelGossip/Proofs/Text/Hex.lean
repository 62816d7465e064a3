import Mathlib.Data.UInt
import Mathlib.Tactic.SplitIfs
import ChannelGossip.Text.Hex

/-! # Reading hexadecimal text

The case of the letters makes no difference to the bytes that a text stands for, also if there are
other characters in it, and what is written, in small letters only, is read as the same bytes.
Main statements:

* `Hex.decode_toLower`   a text in small letters stands for the same bytes
* `Hex.decode_encode`   reading undoes writing
* `Hex.mem_toList_encode`   what is written are digits in small letters
* `Hex.encode_inj`   a text is written for one byte string only -/

namespace ChannelGossip.Text

private theorem toList_loop (bs : ByteArray) (i : Nat) (read : Bytes) :
    ByteArray.toList.loop bs i read = read.reverse ++ bs.data.toList.drop i := by
  -- Along the loop of `ByteArray.toList`, which collects the bytes from position `i` on in reverse.
  fun_induction ByteArray.toList.loop bs i read with
  | case1 i read hi ih =>
    have hi' : i < bs.data.toList.length := by simpa using hi
    rw [ih, List.drop_eq_getElem_cons hi']
    simp [ByteArray.get!, hi]
  | case2 i read hi =>
    rw [List.drop_eq_nil_of_le (by simpa using Nat.le_of_not_lt hi), List.append_nil]

/-- The bytes of a text are those of its characters one after the other, by
    `String.utf8EncodeChar`. -/
theorem toList_toUTF8 (text : String) :
    text.toUTF8.toList = text.toList.flatMap String.utf8EncodeChar := by
  rw [ByteArray.toList, toList_loop, String.toUTF8_eq_toByteArray, ← String.utf8Encode_toList,
    List.utf8Encode, List.toList_data_toByteArray]
  rfl

/-- A byte of `String.utf8EncodeChar c` is the number of `c` or is not ASCII. -/
theorem toNat_of_mem_utf8EncodeChar {c : Char} {b : UInt8} (h : b ∈ String.utf8EncodeChar c) :
    b.toNat = c.toNat ∨ 0x80 ≤ b.toNat := by
  have hofNat : ∀ {n}, n < 0x100 → (UInt8.ofNat n).toNat = n := UInt8.toNat_ofNat_of_lt'
  have hmarked : ∀ n, 0x80 ≤ n → n < 0x100 → 0x80 ≤ (UInt8.ofNat n).toNat := by
    intro n hle hlt
    rwa [hofNat hlt]
  simp only [String.utf8EncodeChar, Char.toNat_val] at h
  -- One case for each number of bytes that a character can take.
  split_ifs at h
  · obtain rfl := List.mem_singleton.1 h
    exact .inl (hofNat (by omega))
  -- Each byte of a longer spelling is marked as such by its first bit.
  all_goals
    simp only [List.mem_cons, List.not_mem_nil, or_false] at h
    right
    rcases h with rfl | rfl | rfl | rfl <;> exact hmarked _ (by omega) (by omega)

/-- The byte of a capital ASCII letter as that of the small letter, and any other byte as it is. -/
def lowerByte (b : UInt8) : UInt8 := if 65 ≤ b.toNat ∧ b.toNat ≤ 90 then b + 32 else b

/-- `Char.toLower` acts on the bytes of a character as `lowerByte`. -/
theorem utf8EncodeChar_toLower (c : Char) :
    String.utf8EncodeChar c.toLower = (String.utf8EncodeChar c).map lowerByte := by
  by_cases hupper : 65 ≤ c.toNat ∧ c.toNat ≤ 90
  · -- A capital letter is moved by 32, within the characters of one byte.
    have hletter : c.val ≥ 'A'.val ∧ c.val ≤ 'Z'.val := by
      simpa [UInt32.le_iff_toNat_le] using hupper
    have hval : c.toLower.val = c.val + 32 := congrArg Char.val (dif_pos hletter)
    have hlower : c.toLower.toNat = c.toNat + 32 := by
      simp only [← Char.toNat_val, hval, UInt32.toNat_add] at hupper ⊢
      exact Nat.mod_eq_of_lt (show c.val.toNat + 32 < 2 ^ 32 by omega)
    simp only [String.utf8EncodeChar, Char.toNat_val, hlower]
    rw [if_pos (by omega), if_pos (by omega), List.map_singleton, lowerByte,
      if_pos (by simp; omega), UInt8.ofNat_add]
    rfl
  · have hletter : ¬(c.val ≥ 'A'.val ∧ c.val ≤ 'Z'.val) := by
      simpa [UInt32.le_iff_toNat_le] using hupper
    have hlower : c.toLower = c := dif_neg hletter
    rw [hlower, List.map_congr_left (g := id), List.map_id]
    intro b hb
    -- No other character has the byte of a capital letter.
    have hbyte := toNat_of_mem_utf8EncodeChar hb
    exact if_neg (by omega)

/-- `String.toLower` acts on the bytes of a text as `lowerByte`. -/
theorem toList_toUTF8_toLower (text : String) :
    text.toLower.toUTF8.toList = text.toUTF8.toList.map lowerByte := by
  have hlower : text.toLower.toList = text.toList.map Char.toLower := String.toList_map
  rw [toList_toUTF8, toList_toUTF8, hlower, List.flatMap_map, List.map_flatMap]
  simp only [utf8EncodeChar_toLower]

namespace Hex

/-- `lowerByte` does not change the value of a digit. -/
theorem digitValue?_lowerByte (b : UInt8) : digitValue? (lowerByte b) = digitValue? b := by
  unfold lowerByte
  split
  · rename_i hupper
    have hlower : (b + 32).toNat = b.toNat + 32 := by
      rw [UInt8.toNat_add]
      exact Nat.mod_eq_of_lt (by simp; omega)
    simp only [digitValue?, hlower]
    grind
  · rfl

/-- `decode` gives the same bytes for `text.toLower` as for `text`, if it gives any.  The errors may
    differ, since they name the character that is no digit. -/
theorem decode_toLower (text : String) :
    (decode text.toLower).toOption = (decode text).toOption := by
  have hvalue : digitValue? ∘ lowerByte = digitValue? := funext digitValue?_lowerByte
  have hdigit : (fun b => (digitValue? b).isNone) ∘ lowerByte =
      fun b => (digitValue? b).isNone := funext fun b => by
    rw [Function.comp_apply, digitValue?_lowerByte]
  -- `decode` looks at a byte only through its `digitValue?`.
  simp only [decode, toList_toUTF8_toLower, List.length_map, decodeDigits, List.findIdx?_map,
    List.filterMap_map, hvalue, hdigit]
  split
  · rfl
  · -- A byte that is no digit is named in the error as it stands in the text.
    split <;> rfl

/-- The values of the two `digits` of a byte. -/
def nibbles (b : UInt8) : List Nat := [b.toNat / 16, b.toNat % 16]

/-- `Nat.digitChar` writes a value below 16 as one byte, and `digitValue?` gives the value back. -/
theorem map_digitValue?_digitChar {n : Nat} (hn : n < 16) :
    (String.utf8EncodeChar (Nat.digitChar n)).map digitValue? = [some n] := by
  -- There are only 16 cases.
  have hdigits : ∀ n < 16,
      (String.utf8EncodeChar (Nat.digitChar n)).map digitValue? = [some n] := by decide +kernel
  exact hdigits n hn

/-- Every byte of the text `encode bs` is a digit, and the values are the `nibbles` of `bs`. -/
theorem map_digitValue?_encode (bs : Bytes) :
    (encode bs).toUTF8.toList.map digitValue? = (bs.flatMap nibbles).map some := by
  rw [toList_toUTF8, encode, String.toList_ofList]
  induction bs with
  | nil => rfl
  | cons b bs ih =>
    -- The two digits of `b` are read back one by one.
    have hb : b.toNat < 256 := b.toNat_lt
    have hhigh := map_digitValue?_digitChar (show b.toNat / 16 < 16 by omega)
    have hlow := map_digitValue?_digitChar (Nat.mod_lt b.toNat (show 16 > 0 by decide))
    simp only [List.flatMap_cons, List.flatMap_append, List.map_append, ih, digits, nibbles,
      List.flatMap_nil, List.append_nil, hhigh, hlow, List.map_cons, List.map_nil,
      List.singleton_append]

/-- `joinPairs` puts the `nibbles` of a byte together again. -/
theorem joinPairs_nibbles (read bs : Bytes) :
    joinPairs read (bs.flatMap nibbles) = read.reverse ++ bs := by
  induction bs generalizing read with
  | nil => rw [List.flatMap_nil, joinPairs, List.append_nil]; nofun
  | cons b bs ih =>
    -- Quotient and remainder by 16 make up the byte again.
    have hb : UInt8.ofNat (16 * (b.toNat / 16) + b.toNat % 16) = b := by
      rw [Nat.div_add_mod, UInt8.ofNat_toNat]
    rw [List.flatMap_cons, nibbles, List.cons_append, List.cons_append, List.nil_append, joinPairs,
      hb, ih, List.reverse_cons, List.append_assoc, List.singleton_append]

/-- `decodeDigits` joins the values of the bytes if `digitValue?` has one for each of them. -/
theorem decodeDigits_of_map {text : Bytes} {values : List Nat}
    (h : text.map digitValue? = values.map some) :
    decodeDigits text = .ok (joinPairs [] values) := by
  -- No byte of `text` is reported, since each of them has a value.
  have hdigits : text.findIdx? (fun b => (digitValue? b).isNone) = none := by
    rw [List.findIdx?_eq_none_iff]
    intro b hb
    have hmem : digitValue? b ∈ values.map some := h ▸ List.mem_map_of_mem hb
    obtain ⟨value, -, hvalue⟩ := List.mem_map.1 hmem
    rw [← hvalue]
    rfl
  have hvalues : text.filterMap digitValue? = values := by
    calc text.filterMap digitValue? = (text.map digitValue?).filterMap id := by
          rw [List.filterMap_map, Function.id_comp]
      _ = (values.map some).filterMap id := by rw [h]
      _ = values := List.filterMap_map.trans List.filterMap_some
  rw [decodeDigits, hdigits, hvalues]

/-- `decode` undoes `encode`. -/
theorem decode_encode (bs : Bytes) : decode (encode bs) = .ok bs := by
  have hvalues := map_digitValue?_encode bs
  -- Two digits for each byte are an even number of them.
  have hlength : (encode bs).toUTF8.toList.length % 2 = 0 := by
    rw [← List.length_map digitValue?, hvalues, List.length_map, List.length_flatMap]
    simp [nibbles]
  have hodd : ¬(encode bs).toUTF8.toList.length % 2 = 1 := by omega
  simp only [decode, if_neg hodd]
  rw [decodeDigits_of_map hvalues, joinPairs_nibbles]
  rfl

/-- The digits that `encode` writes are the lower-case ones. -/
theorem mem_toList_encode {bs : Bytes} {c : Char} (h : c ∈ (encode bs).toList) :
    c ∈ "0123456789abcdef".toList := by
  have hdigits : ∀ n < 16, Nat.digitChar n ∈ "0123456789abcdef".toList := by decide
  rw [encode, String.toList_ofList, List.mem_flatMap] at h
  obtain ⟨b, -, hc⟩ := h
  have hb : b.toNat < 256 := b.toNat_lt
  rw [digits, List.mem_pair] at hc
  obtain rfl | rfl := hc
  · exact hdigits _ (by omega)
  · exact hdigits _ (Nat.mod_lt _ (by decide))

/-- `encode` writes different texts for different byte strings. -/
theorem encode_inj {as bs : Bytes} : encode as = encode bs ↔ as = bs := by
  constructor
  · intro h
    have hbs := decode_encode bs
    rw [← h, decode_encode] at hbs
    exact Except.ok.inj hbs
  · rintro rfl
    rfl

end Hex

end ChannelGossip.Text
