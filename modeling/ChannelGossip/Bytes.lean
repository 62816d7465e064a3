/-! # Byte strings

Wire data is a list of bytes, first byte first.  This file holds the two conversions between
natural numbers and big-endian byte strings, and the split that every reader is built from.
Main statements:

* `length_ofNat`   a number is written in exactly as many bytes as asked for
* `split?_eq_some_iff`   a split succeeds exactly on a string that starts with `n` bytes
* `split?_eq_none_iff`   it fails exactly on a string that is shorter -/

namespace ChannelGossip

/-- A byte string, first byte first. -/
abbrev Bytes := List UInt8

namespace Bytes

/-! ## Big-endian numbers -/

/-- The number whose big-endian base-256 digits are the given bytes. -/
def toNat (bs : Bytes) : Nat :=
  bs.foldl (fun n b => 256 * n + b.toNat) 0

/-- The last `width` base-256 digits of `n` as bytes, big-endian. -/
def ofNat : Nat → Nat → Bytes
  | 0, _ => []
  | width + 1, n => ofNat width (n / 256) ++ [UInt8.ofNat n]

@[simp] theorem toNat_nil : toNat [] = 0 := rfl

/-- One more digit at the end multiplies the number by 256. -/
@[simp] theorem toNat_concat (bs : Bytes) (b : UInt8) :
    toNat (bs ++ [b]) = 256 * toNat bs + b.toNat := by
  simp [toNat]

/-- A number is written in exactly as many bytes as asked for. -/
@[simp] theorem length_ofNat (width n : Nat) : (ofNat width n).length = width := by
  induction width generalizing n with
  | zero => rfl
  | succ width ih => simp [ofNat, ih]

/-! ## Splitting -/

/-- The first `n` bytes and the rest, if there are that many. -/
def split? (n : Nat) (bs : Bytes) : Option ({ head : Bytes // head.length = n } × Bytes) :=
  let head := bs.take n
  if h : head.length = n then some (⟨head, h⟩, bs.drop n) else none

/-- A split succeeds exactly if the string starts with as many bytes, and loses none of them. -/
theorem split?_eq_some_iff {n : Nat} {bs rest : Bytes} {head : { h : Bytes // h.length = n }} :
    split? n bs = some (head, rest) ↔ bs = head.1 ++ rest := by
  obtain ⟨head, rfl⟩ := head
  simp only [split?]
  constructor
  · intro h
    split at h
    · simp only [Option.some.injEq, Prod.mk.injEq, Subtype.mk.injEq] at h
      rw [← h.1, ← h.2]
      exact (List.take_append_drop _ _).symm
    · cases h
  · intro h
    subst h
    simp

/-- A split fails exactly if the string is shorter. -/
theorem split?_eq_none_iff {n : Nat} {bs : Bytes} : split? n bs = none ↔ bs.length < n := by
  simp only [split?, List.length_take]
  split <;> simp <;> omega

end Bytes

end ChannelGossip
