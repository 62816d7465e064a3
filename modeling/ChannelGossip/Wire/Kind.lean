/-! # Kinds of values

A field's kind says how its value is laid out on the wire.  The kinds of fixed width share one
treatment, so they have a type of their own. -/

namespace ChannelGossip

/-- The kinds of value that are plain bytes of a fixed width. -/
inductive FixedKind where
  /-- A compact ECDSA signature. -/
  | signature
  /-- A compressed secp256k1 point: a node id or a key. -/
  | point
  /-- The hash of a chain's first block, which names the chain. -/
  | chainHash
  /-- A node's name: text padded with zero bytes. -/
  | nodeAlias
  /-- A colour as red, green and blue. -/
  | rgbColor
deriving Repr, DecidableEq

namespace FixedKind

/-- How many bytes a value of the kind has. -/
def width : FixedKind → Nat
  | signature => 64
  | point => 33
  | chainHash => 32
  | nodeAlias => 32
  | rgbColor => 3

/-- The name of a kind in text. -/
def name : FixedKind → String
  | signature => "Signature"
  | point => "Point"
  | chainHash => "ChainHash"
  | nodeAlias => "Alias"
  | rgbColor => "RgbColor"

end FixedKind

/-- The kinds of value that a field can hold. -/
inductive Kind where
  /-- The type number of a message. -/
  | messageType
  /-- A number in one byte. -/
  | u8
  /-- A number in two bytes. -/
  | u16
  /-- A number in four bytes. -/
  | u32
  /-- A number in eight bytes. -/
  | u64
  /-- As many bytes as the kind says. -/
  | fixed (kind : FixedKind)
  /-- A short channel id in eight bytes. -/
  | shortChannelId
  /-- Bytes behind their length. -/
  | varBytes
  /-- An encoding byte and a body behind their length. -/
  | idList
  /-- All bytes that are left. -/
  | remainder
deriving Repr, DecidableEq

namespace Kind

/-- The name of a kind in text. -/
def name : Kind → String
  | messageType => "MessageType"
  | u8 => "U8"
  | u16 => "U16"
  | u32 => "U32"
  | u64 => "U64"
  | fixed kind => kind.name
  | shortChannelId => "ShortChannelId"
  | varBytes => "VarBytes"
  | idList => "EncodedShortChannelIds"
  | remainder => "Remainder"

/-- All kinds. -/
def all : List Kind :=
  [messageType, u8, u16, u32, u64, fixed .signature, fixed .point, fixed .chainHash, shortChannelId,
   fixed .rgbColor, fixed .nodeAlias, varBytes, idList, remainder]

/-- The kind with a given name. -/
def ofName? (name : String) : Option Kind := all.find? (·.name == name)

end Kind

end ChannelGossip
