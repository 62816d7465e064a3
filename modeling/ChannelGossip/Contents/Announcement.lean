import ChannelGossip.Contents.Basic
import ChannelGossip.NetAddress

/-! # Announcements

The three messages that gossip consists of: a channel is announced once, each of its two ends
updates its terms, and a node announces itself. -/

namespace ChannelGossip

/-! ## Channels -/

/-- A proof that two nodes own a channel. -/
structure ChannelAnnouncement where
  nodeSignature1 : Signature
  nodeSignature2 : Signature
  bitcoinSignature1 : Signature
  bitcoinSignature2 : Signature
  channelFeatures : VarBytes
  chainHash : ChainHash
  shortChannelId : ShortChannelId
  nodeId1 : Point
  nodeId2 : Point
  bitcoinKey1 : Point
  bitcoinKey2 : Point
deriving Repr, DecidableEq

instance : Contents ChannelAnnouncement where
  kind := .channelAnnouncement
  values c :=
    [.fixed c.nodeSignature1, .fixed c.nodeSignature2, .fixed c.bitcoinSignature1,
     .fixed c.bitcoinSignature2, .varBytes c.channelFeatures, .fixed c.chainHash,
     .shortChannelId c.shortChannelId, .fixed c.nodeId1, .fixed c.nodeId2, .fixed c.bitcoinKey1,
     .fixed c.bitcoinKey2]
  ofValues?
    | [@Value.fixed .signature nodeSignature1, @Value.fixed .signature nodeSignature2,
       @Value.fixed .signature bitcoinSignature1, @Value.fixed .signature bitcoinSignature2,
       .varBytes channelFeatures, @Value.fixed .chainHash chainHash,
       .shortChannelId shortChannelId, @Value.fixed .point nodeId1, @Value.fixed .point nodeId2,
       @Value.fixed .point bitcoinKey1, @Value.fixed .point bitcoinKey2] =>
      some
        { nodeSignature1, nodeSignature2, bitcoinSignature1, bitcoinSignature2, channelFeatures,
          chainHash, shortChannelId, nodeId1, nodeId2, bitcoinKey1, bitcoinKey2 }
    | _ => none

/-! ## Updates -/

/-- The terms on which one end of a channel forwards payments. -/
structure ChannelUpdate where
  signature : Signature
  chainHash : ChainHash
  shortChannelId : ShortChannelId
  timestamp : UInt32
  messageFlags : UInt8
  channelFlags : UInt8
  cltvExpiryDelta : UInt16
  htlcMinimumMsat : UInt64
  feeBaseMsat : UInt32
  feeProportionalMillionths : UInt32
  htlcMaximumMsat : UInt64
deriving Repr, DecidableEq

instance : Contents ChannelUpdate where
  kind := .channelUpdate
  values c :=
    [.fixed c.signature, .fixed c.chainHash, .shortChannelId c.shortChannelId, .u32 c.timestamp,
     .u8 c.messageFlags, .u8 c.channelFlags, .u16 c.cltvExpiryDelta, .u64 c.htlcMinimumMsat,
     .u32 c.feeBaseMsat, .u32 c.feeProportionalMillionths, .u64 c.htlcMaximumMsat]
  ofValues?
    | [@Value.fixed .signature signature, @Value.fixed .chainHash chainHash,
       .shortChannelId shortChannelId, .u32 timestamp, .u8 messageFlags, .u8 channelFlags,
       .u16 cltvExpiryDelta, .u64 htlcMinimumMsat, .u32 feeBaseMsat,
       .u32 feeProportionalMillionths, .u64 htlcMaximumMsat] =>
      some
        { signature, chainHash, shortChannelId, timestamp, messageFlags, channelFlags,
          cltvExpiryDelta, htlcMinimumMsat, feeBaseMsat, feeProportionalMillionths,
          htlcMaximumMsat }
    | _ => none

/-- The end of a channel that an update comes from. -/
inductive Direction where
  /-- The node that the announcement names first. -/
  | fromFirst
  /-- The node that the announcement names second. -/
  | fromSecond
deriving Repr, DecidableEq

/-- The bit that stands for a direction. -/
def Direction.bit : Direction → Nat
  | fromFirst => 0
  | fromSecond => 1

namespace ChannelUpdate

/-- The end that sent an update: bit 0 of its channel flags. -/
def direction (u : ChannelUpdate) : Direction :=
  if u.channelFlags.toNat.testBit 0 then .fromSecond else .fromFirst

/-- Whether the update disables its direction: bit 1 of its channel flags. -/
def isDisabled (u : ChannelUpdate) : Bool := u.channelFlags.toNat.testBit 1

end ChannelUpdate

/-! ## Nodes -/

/-- What a node tells about itself. -/
structure NodeAnnouncement where
  signature : Signature
  features : VarBytes
  timestamp : UInt32
  nodeId : Point
  rgbColor : RgbColor
  nodeAlias : Alias
  addresses : VarBytes
deriving Repr, DecidableEq

instance : Contents NodeAnnouncement where
  kind := .nodeAnnouncement
  values c :=
    [.fixed c.signature, .varBytes c.features, .u32 c.timestamp, .fixed c.nodeId, .fixed c.rgbColor,
     .fixed c.nodeAlias, .varBytes c.addresses]
  ofValues?
    | [@Value.fixed .signature signature, .varBytes features, .u32 timestamp,
       @Value.fixed .point nodeId, @Value.fixed .rgbColor rgbColor,
       @Value.fixed .nodeAlias nodeAlias, .varBytes addresses] =>
      some { signature, features, timestamp, nodeId, rgbColor, nodeAlias, addresses }
    | _ => none

/-- The addresses that a node announces. -/
def NodeAnnouncement.netAddresses (n : NodeAnnouncement) : Except Error (List NetAddress) :=
  NetAddress.readAll n.addresses.bytes

end ChannelGossip
