import ChannelGossip.Wire.ShortChannelId

/-! # Lists of short channel ids

On the wire such a list is one encoding byte and a body.  Only the plain encoding, the ids one
after the other, can be expanded; the body is kept as it came, so that a list in any encoding is
written back unchanged. -/

namespace ChannelGossip

/-- How the body of an id list is encoded. -/
inductive IdEncoding where
  | uncompressed
  | zlib
  | other (byte : UInt8)
deriving Repr, DecidableEq

namespace IdEncoding

/-- The encoding that a byte announces. -/
def ofByte (byte : UInt8) : IdEncoding :=
  if byte = 0 then uncompressed else if byte = 1 then zlib else other byte

/-- The byte that announces an encoding. -/
def byte : IdEncoding → UInt8
  | uncompressed => 0
  | zlib => 1
  | other byte => byte

/-- An encoding read from a byte is written as that byte. -/
@[simp] theorem byte_ofByte (b : UInt8) : (ofByte b).byte = b := by
  unfold ofByte
  split
  · simp_all [byte]
  · split <;> simp_all [byte]

end IdEncoding

/-- An id list as it travels. -/
structure IdList where
  encoding : IdEncoding
  body : Bytes
deriving Repr, DecidableEq

namespace IdList

/-- The longest body that fits the two-byte length together with its encoding byte. -/
def maxBody : Nat := 65534

/-- The list of the given ids in the plain encoding, if they are not too many. -/
def ofIds (ids : List ShortChannelId) : Except Error IdList :=
  if ids.length * ShortChannelId.width ≤ maxBody then
    .ok ⟨.uncompressed, ids.flatMap ShortChannelId.encode⟩
  else .error (.malformed (.tooManyIds ids.length))

/-- The ids spelled by the whole eight-byte pieces of a body, after those read so far in reverse
    order. -/
def idsFrom (read : List ShortChannelId) (body : Bytes) : List ShortChannelId :=
  match _h : Bytes.split? ShortChannelId.width body with
  | some (head, rest) => idsFrom (.ofBytes head.1 :: read) rest
  | none => read.reverse
termination_by body.length
decreasing_by
  rw [Bytes.split?_eq_some_iff.1 _h, List.length_append, head.2]
  simp [ShortChannelId.width]

/-- The ids in a list. -/
def ids (list : IdList) : Except Error (List ShortChannelId) :=
  if list.encoding ≠ .uncompressed then .error (.unsupportedEncoding list.encoding.byte)
  else if list.body.length % ShortChannelId.width ≠ 0 then
    .error (.malformed (.raggedIds list.body.length))
  else .ok (idsFrom [] list.body)

/-- The list behind its length, of which only the low two bytes are written. -/
def encode (list : IdList) : Bytes :=
  Bytes.ofNat 2 (list.body.length + 1) ++ list.encoding.byte :: list.body

end IdList

end ChannelGossip
