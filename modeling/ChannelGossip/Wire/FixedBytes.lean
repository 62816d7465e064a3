import ChannelGossip.Error

/-! # Values of fixed width

Signatures, points, chain hashes, aliases and colours are plain bytes whose number is fixed by
their kind.  The width is part of the type, so a point can never stand where a chain hash belongs,
and every value of a kind has the right length by construction. -/

namespace ChannelGossip

/-- A value of a kind of fixed width. -/
structure FixedBytes (kind : FixedKind) where
  bytes : Bytes
  length_eq : bytes.length = kind.width
deriving Repr, DecidableEq

/-- A compact ECDSA signature. -/
abbrev Signature := FixedBytes .signature

/-- A compressed secp256k1 point. -/
abbrev Point := FixedBytes .point

/-- The hash of a chain's first block. -/
abbrev ChainHash := FixedBytes .chainHash

/-- The name that a node gives itself. -/
abbrev Alias := FixedBytes .nodeAlias

/-- A colour in three bytes. -/
abbrev RgbColor := FixedBytes .rgbColor

namespace FixedBytes

/-- The value with the given bytes, if there are as many as the kind requires. -/
def ofBytes (kind : FixedKind) (bytes : Bytes) : Except Error (FixedBytes kind) :=
  if h : bytes.length = kind.width then .ok ⟨bytes, h⟩
  else .error (.malformed (.wrongWidth kind bytes.length))

/-- The value that a hexadecimal text stands for. -/
def parse (kind : FixedKind) (text : String) : Except Error (FixedBytes kind) := do
  let bytes ← (Text.Hex.decodeExactly kind.width text).mapError (.malformed <| .badHex kind ·)
  ofBytes kind bytes

/-- The hexadecimal form of a value. -/
def hex {kind : FixedKind} (v : FixedBytes kind) : String := Text.Hex.encode v.bytes

/-- A value with the name of its kind, as shown to developers. -/
def describe {kind : FixedKind} (v : FixedBytes kind) : String := s!"{kind.name}({v.hex})"

end FixedBytes

/-! ## Well-known chains -/

namespace ChainHash

/-- The main chain. -/
def bitcoin : ChainHash where
  bytes :=
    [0x6f, 0xe2, 0x8c, 0x0a, 0xb6, 0xf1, 0xb3, 0x72, 0xc1, 0xa6, 0xa2, 0x46, 0xae, 0x63, 0xf7, 0x4f,
     0x93, 0x1e, 0x83, 0x65, 0xe1, 0x5a, 0x08, 0x9c, 0x68, 0xd6, 0x19, 0x00, 0x00, 0x00, 0x00, 0x00]
  length_eq := rfl

/-- The chain for public trials. -/
def testnet : ChainHash where
  bytes :=
    [0x43, 0x49, 0x7f, 0xd7, 0xf8, 0x26, 0x95, 0x71, 0x08, 0xf4, 0xa3, 0x0f, 0xd9, 0xce, 0xc3, 0xae,
     0xba, 0x79, 0x97, 0x20, 0x84, 0xe9, 0x0e, 0xad, 0x01, 0xea, 0x33, 0x09, 0x00, 0x00, 0x00, 0x00]
  length_eq := rfl

/-- The chain for private trials. -/
def regtest : ChainHash where
  bytes :=
    [0x06, 0x22, 0x6e, 0x46, 0x11, 0x1a, 0x0b, 0x59, 0xca, 0xaf, 0x12, 0x60, 0x43, 0xeb, 0x5b, 0xbf,
     0x28, 0xc3, 0x4f, 0x3a, 0x5e, 0x33, 0x2a, 0x1f, 0xc7, 0xb2, 0xb7, 0x3c, 0xf1, 0x88, 0x91, 0x0f]
  length_eq := rfl

/-- The name of a well-known chain. -/
def network? (chain : ChainHash) : Option String :=
  if chain = bitcoin then some "bitcoin"
  else if chain = testnet then some "testnet"
  else if chain = regtest then some "regtest"
  else none

end ChainHash

/-- The text of an alias: its bytes up to the last that is not zero, read leniently. -/
def Alias.text (name : Alias) : String :=
  Text.Utf8.decodeLossy (name.bytes.reverse.dropWhile (· == 0)).reverse

end ChannelGossip
