import Mathlib.Data.List.Induction
import Mathlib.Tactic.Ring
import ChannelGossip.Bytes

/-! # Byte strings as numbers

Strings of `width` bytes and the numbers below `256 ^ width` are the same thing.  Main statements:

* `toNat_lt`   `width` bytes make a number below `256 ^ width`
* `toNat_ofNat`   reading the `width` bytes written for `n` gives `n % 256 ^ width`
* `ofNat_toNat`   writing the number read from `bs` in `bs.length` bytes gives `bs` back
* `toNat_lt_toNat_iff`   strings of the same length are ordered like their numbers
* `testBit_toNat_concat`   the last byte holds the lowest eight bits -/

namespace ChannelGossip.Bytes

/-- `toNat` of `width` bytes is below `256 ^ width`. -/
theorem toNat_lt (bs : Bytes) : toNat bs < 256 ^ bs.length := by
  induction bs using List.reverseRecOn with
  | nil => decide
  | append_singleton bs b ih =>
    -- One more digit leaves room for 256 times as many numbers.
    have hb : b.toNat < 256 := b.toNat_lt
    rw [toNat_concat, List.length_append, List.length_singleton, pow_succ]
    omega

/-- `ofNat width n` loses only the digits of `n` that do not fit `width` bytes. -/
theorem toNat_ofNat (width n : Nat) : toNat (ofNat width n) = n % 256 ^ width := by
  induction width generalizing n with
  | zero => simp [ofNat, Nat.mod_one]
  | succ width ih =>
    -- The last byte takes the remainder by 256, and the others are written for the quotient.
    have hb : (UInt8.ofNat n).toNat = n % 256 := rfl
    rw [ofNat, toNat_concat, ih, hb, pow_succ, Nat.mul_comm (256 ^ width), Nat.mod_mul]
    ring

/-- In `as ++ bs` the bytes `bs` shift the number of `as` by their count. -/
theorem toNat_append (as bs : Bytes) :
    toNat (as ++ bs) = toNat as * 256 ^ bs.length + toNat bs := by
  induction bs using List.reverseRecOn with
  | nil => simp
  | append_singleton bs b ih =>
    rw [← List.append_assoc, toNat_concat, toNat_concat, ih, List.length_append,
      List.length_singleton]
    ring

/-- `ofNat` undoes `toNat` if it writes as many bytes as there were. -/
theorem ofNat_toNat (bs : Bytes) : ofNat bs.length (toNat bs) = bs := by
  induction bs using List.reverseRecOn with
  | nil => rfl
  | append_singleton bs b ih =>
    have hb : b.toNat < 256 := b.toNat_lt
    -- The last digit is the remainder and the digits before it are the quotient.
    have hdiv : (256 * toNat bs + b.toNat) / 256 = toNat bs := by omega
    have hmod : UInt8.ofNat (256 * toNat bs + b.toNat) = b := by
      apply UInt8.toNat_inj.mp
      show (256 * toNat bs + b.toNat) % 256 = b.toNat
      omega
    rw [List.length_append, List.length_singleton, toNat_concat, ofNat, hdiv, hmod, ih]

/-- The first byte counts for as much as the bytes after it leave room for. -/
theorem toNat_cons (b : UInt8) (bs : Bytes) :
    toNat (b :: bs) = b.toNat * 256 ^ bs.length + toNat bs := by
  have hb : toNat [b] = b.toNat := by simp [toNat]
  rw [← List.singleton_append, toNat_append, hb]

/-- `toNat` orders byte strings of the same length like `List.Lex`, by the first bytes that
    differ. -/
theorem toNat_lt_toNat_iff {as bs : Bytes} (h : as.length = bs.length) :
    toNat as < toNat bs ↔ List.Lex (· < ·) as bs := by
  induction as generalizing bs with
  | nil =>
    obtain rfl : bs = [] := List.length_eq_zero_iff.1 h.symm
    simp
  | cons a as ih =>
    cases bs with
    | nil => cases h
    | cons b bs =>
      -- The numbers of the rests decide only if the first bytes are the same.
      have hlength : as.length = bs.length := Nat.succ.inj h
      have has : toNat as < 256 ^ bs.length := hlength ▸ toNat_lt as
      have hbs := toNat_lt bs
      rw [toNat_cons, toNat_cons, hlength, List.cons_lex_cons_iff, ← ih hlength,
        UInt8.lt_iff_toNat_lt]
      -- What stands behind the first digits is less than one more in the first digit.
      rcases Nat.lt_trichotomy a.toNat b.toNat with hlt | heq | hgt
      · have hstep := Nat.mul_le_mul_right (256 ^ bs.length) (Nat.succ_le_of_lt hlt)
        rw [Nat.succ_mul] at hstep
        exact iff_of_true (by omega) (.inl hlt)
      · obtain rfl : a = b := UInt8.toNat_inj.1 heq
        simp
      · have hstep := Nat.mul_le_mul_right (256 ^ bs.length) (Nat.succ_le_of_lt hgt)
        rw [Nat.succ_mul] at hstep
        refine iff_of_false (by omega) ?_
        rintro (hlt | ⟨rfl, -⟩)
        · omega
        · exact absurd hgt (Nat.lt_irrefl _)

/-- Zeros in front of `bs` count for nothing. -/
theorem toNat_replicate_zero_append (zeros : Nat) (bs : Bytes) :
    toNat (List.replicate zeros 0 ++ bs) = toNat bs := by
  induction zeros with
  | zero => rfl
  | succ zeros ih =>
    rw [List.replicate_succ, List.cons_append, toNat_cons, ih, UInt8.toNat_zero, Nat.zero_mul,
      Nat.zero_add]

/-- The last byte `b` holds the lowest eight bits of the number, and `bs` all others. -/
theorem testBit_toNat_concat (bs : Bytes) (b : UInt8) (i : Nat) :
    (toNat (bs ++ [b])).testBit i
      = if i < 8 then b.toNat.testBit i else (toNat bs).testBit (i - 8) := by
  have hb : b.toNat < 2 ^ 8 := b.toNat_lt
  rw [toNat_concat]
  exact Nat.testBit_two_pow_mul_add (toNat bs) hb i

end ChannelGossip.Bytes
