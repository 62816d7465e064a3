import ChannelGossip.Error
import ChannelGossip.Text.Numeral

/-! # Short channel ids

A short channel id points at the transaction output that funds a channel: the height of the
block in 24 bits, the transaction's index in the block in 24 bits and the output's index in 16
bits, packed into one 64-bit number from the top down.  In text the three numbers are joined by
`x`. -/

namespace ChannelGossip

/-- A short channel id as its packed number. -/
structure ShortChannelId where
  raw : UInt64
deriving Repr, DecidableEq

namespace ShortChannelId

/-- The number of bytes of an id on the wire. -/
def width : Nat := 8

/-- The height of the funding block. -/
def block (id : ShortChannelId) : Nat := id.raw.toNat / 0x10000000000

/-- The index of the funding transaction in its block. -/
def tx (id : ShortChannelId) : Nat := id.raw.toNat / 0x10000 % 0x1000000

/-- The index of the funding output in its transaction. -/
def output (id : ShortChannelId) : Nat := id.raw.toNat % 0x10000

/-- The id with the given parts, if each fits its bits. -/
def ofParts (block tx output : Nat) : Except Error ShortChannelId :=
  if block < 0x1000000 ∧ tx < 0x1000000 ∧ output < 0x10000 then
    .ok ⟨UInt64.ofNat (block * 0x10000000000 + tx * 0x10000 + output)⟩
  else .error (.malformed (.idOutOfRange block tx output))

/-- The text of an id. -/
def text (id : ShortChannelId) : String := s!"{id.block}x{id.tx}x{id.output}"

/-- An id with the name of its type, as shown to developers. -/
def describe (id : ShortChannelId) : String := s!"ShortChannelId({id.text})"

/-- The id that a text stands for. -/
def parse (text : String) : Except Error ShortChannelId :=
  let bad := .error (.malformed (.badIdText text))
  match text.toList.splitOn 'x' with
  | [block, tx, output] =>
    match Text.Numeral.parse? 10 UInt32.size block, Text.Numeral.parse? 10 UInt32.size tx,
      Text.Numeral.parse? 10 UInt16.size output with
    | some block, some tx, some output => ofParts block tx output
    | _, _, _ => bad
  | _ => bad

/-- The eight bytes of an id on the wire. -/
def encode (id : ShortChannelId) : Bytes := Bytes.ofNat width id.raw.toNat

/-- The id with the given bytes on the wire. -/
def ofBytes (bytes : Bytes) : ShortChannelId := ⟨UInt64.ofNat (Bytes.toNat bytes)⟩

/-- Ids in ascending order of their packed numbers. -/
def sort (ids : List ShortChannelId) : List ShortChannelId :=
  ids.mergeSort fun a b => a.raw.toNat ≤ b.raw.toNat

end ShortChannelId

end ChannelGossip
