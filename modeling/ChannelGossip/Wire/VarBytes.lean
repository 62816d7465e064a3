import ChannelGossip.Error

/-! # Bytes behind a length

A byte string that travels behind its length in two bytes, so that it is shorter than 2^16.
Feature flags are such strings, read as the bits of a big-endian number. -/

namespace ChannelGossip

/-- A byte string whose length fits in two bytes. -/
structure VarBytes where
  bytes : Bytes
  length_lt : bytes.length < UInt16.size
deriving Repr, DecidableEq

namespace VarBytes

/-- The string with the given bytes, if they are not too many. -/
def ofBytes (bytes : Bytes) : Except Error VarBytes :=
  if h : bytes.length < UInt16.size then .ok ⟨bytes, h⟩
  else .error (.malformed (.tooLong bytes.length))

/-- A string is made of its own bytes. -/
theorem ofBytes_bytes (v : VarBytes) : ofBytes v.bytes = .ok v := dif_pos v.length_lt

/-- The string of `count` times the same byte. -/
def filled (byte : UInt8) (count : UInt16) : VarBytes where
  bytes := List.replicate count.toNat byte
  length_lt := by
    rw [List.length_replicate]
    exact count.toNat_lt_size

/-- Whether bit `i` is set, where bit 0 is the lowest bit of the last byte. -/
def hasBit (v : VarBytes) (i : Nat) : Bool :=
  let fromEnd := i / 8
  if v.bytes.length ≤ fromEnd then false
  else v.bytes[v.bytes.length - 1 - fromEnd]?.any (· &&& 1 <<< UInt8.ofNat (i % 8) != 0)

/-- The string behind its length. -/
def encode (v : VarBytes) : Bytes := Bytes.ofNat 2 v.bytes.length ++ v.bytes

end VarBytes

end ChannelGossip
