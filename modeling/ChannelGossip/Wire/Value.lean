import ChannelGossip.Wire.FixedBytes
import ChannelGossip.Wire.IdList
import ChannelGossip.Wire.VarBytes

/-! # Field values

A value of each kind, its bytes on the wire, and the reader that takes one off the front of a
byte string.  A reader never looks past its value, and it reports a string that is too short with
the number of bytes it needed and the number it had, both counted from the value's first byte. -/

namespace ChannelGossip

/-- The value of a field. -/
inductive Value where
  | messageType (id : UInt16)
  | u8 (n : UInt8)
  | u16 (n : UInt16)
  | u32 (n : UInt32)
  | u64 (n : UInt64)
  | fixed {kind : FixedKind} (v : FixedBytes kind)
  | shortChannelId (id : ShortChannelId)
  | varBytes (v : VarBytes)
  | idList (list : IdList)
  | remainder (bytes : Bytes)
deriving Repr, DecidableEq

namespace Value

/-- The kind of a value. -/
def kind : Value → Kind
  | messageType _ => .messageType
  | u8 _ => .u8
  | u16 _ => .u16
  | u32 _ => .u32
  | u64 _ => .u64
  | @fixed kind _ => .fixed kind
  | shortChannelId _ => .shortChannelId
  | varBytes _ => .varBytes
  | idList _ => .idList
  | remainder _ => .remainder

/-- The bytes of a value on the wire. -/
def encode : Value → Bytes
  | messageType id => Bytes.ofNat 2 id.toNat
  | u8 n => [n]
  | u16 n => Bytes.ofNat 2 n.toNat
  | u32 n => Bytes.ofNat 4 n.toNat
  | u64 n => Bytes.ofNat 8 n.toNat
  | fixed v => v.bytes
  | shortChannelId id => id.encode
  | varBytes v => v.encode
  | idList list => list.encode
  | remainder bytes => bytes

end Value

/-! ## Reading -/

/-- The first `n` bytes and the rest. -/
def takeBytes (n : Nat) (bs : Bytes) :
    Except Error ({ head : Bytes // head.length = n } × Bytes) :=
  match bs.split? n with
  | some r => .ok r
  | none => .error (.underflow none n bs.length)

/-- A big-endian number of `n` bytes and the rest. -/
def takeNat (n : Nat) (bs : Bytes) : Except Error (Nat × Bytes) := do
  let (head, rest) ← takeBytes n bs
  return (Bytes.toNat head.1, rest)

/-- The bytes behind a two-byte length and the rest. -/
def takeVarBytes (bs : Bytes) : Except Error (VarBytes × Bytes) := do
  let (n, rest) ← takeNat 2 bs
  let length := UInt16.ofNat n
  match rest.split? length.toNat with
  | some (body, rest) =>
    return (⟨body.1, Nat.lt_of_le_of_lt (Nat.le_of_eq body.2) length.toNat_lt_size⟩, rest)
  | none => throw (.underflow none (length.toNat + 2) (rest.length + 2))

/-- The id list behind a two-byte length and the rest.  The length counts the encoding byte and so
    cannot be zero. -/
def takeIdList (bs : Bytes) : Except Error (IdList × Bytes) := do
  let (length, rest) ← takeNat 2 bs
  if length = 0 then throw (.malformed .noEncodingByte)
  match rest.split? length with
  | some (⟨encoding :: body, _⟩, rest) => return (⟨.ofByte encoding, body⟩, rest)
  | _ => throw (.underflow none (length + 2) (rest.length + 2))

/-- All bytes, and nothing as the rest. -/
def takeRemainder (bs : Bytes) : Bytes × Bytes := (bs, [])

/-- A value of the given kind from the front of a byte string, and the rest. -/
def Kind.read : Kind → Bytes → Except Error (Value × Bytes)
  | .messageType, bs => do
    let (n, rest) ← takeNat 2 bs
    return (.messageType (.ofNat n), rest)
  | .u8, bs => do
    let (n, rest) ← takeNat 1 bs
    return (.u8 (.ofNat n), rest)
  | .u16, bs => do
    let (n, rest) ← takeNat 2 bs
    return (.u16 (.ofNat n), rest)
  | .u32, bs => do
    let (n, rest) ← takeNat 4 bs
    return (.u32 (.ofNat n), rest)
  | .u64, bs => do
    let (n, rest) ← takeNat 8 bs
    return (.u64 (.ofNat n), rest)
  | .fixed kind, bs => do
    let (head, rest) ← takeBytes kind.width bs
    return (@Value.fixed kind ⟨head.1, head.2⟩, rest)
  | .shortChannelId, bs => do
    let (head, rest) ← takeBytes ShortChannelId.width bs
    return (.shortChannelId (.ofBytes head.1), rest)
  | .varBytes, bs => do
    let (v, rest) ← takeVarBytes bs
    return (.varBytes v, rest)
  | .idList, bs => do
    let (list, rest) ← takeIdList bs
    return (.idList list, rest)
  | .remainder, bs =>
    let (bytes, rest) := takeRemainder bs
    return (.remainder bytes, rest)

end ChannelGossip
