import ChannelGossip.Wire.Field
import ChannelGossip.Wire.Kind
import ChannelGossip.Wire.MessageKind

/-! # Layouts

The layout of a message lists its fields in wire order, each with the kind of its value.  Every
layout starts with the type number; a message that is not in the catalogue has nothing else. -/

namespace ChannelGossip

/-- One place in a layout: a field and the kind of its value. -/
structure Slot where
  field : Field
  kind : Kind
deriving Repr, DecidableEq

/-- The fields of a message in wire order. -/
abbrev Layout := List Slot

namespace Layout

/-- The slot that every layout starts with. -/
def typeSlot : Slot := ⟨.type, .messageType⟩

/-- The layout of a message that is not in the catalogue. -/
def unknown : Layout := [typeSlot]

end Layout

namespace MessageKind

/-- The slots after the type number. -/
def body : MessageKind → Layout
  | init => [⟨.globalFeatures, .varBytes⟩, ⟨.localFeatures, .varBytes⟩]
  | ping => [⟨.numPongBytes, .u16⟩, ⟨.pingBytes, .varBytes⟩]
  | pong => [⟨.pongBytes, .varBytes⟩]
  | channelAnnouncement =>
    [⟨.nodeSignature1, .fixed .signature⟩, ⟨.nodeSignature2, .fixed .signature⟩,
     ⟨.bitcoinSignature1, .fixed .signature⟩, ⟨.bitcoinSignature2, .fixed .signature⟩,
     ⟨.channelFeatures, .varBytes⟩, ⟨.chainHash, .fixed .chainHash⟩,
     ⟨.shortChannelId, .shortChannelId⟩, ⟨.nodeId1, .fixed .point⟩, ⟨.nodeId2, .fixed .point⟩,
     ⟨.bitcoinKey1, .fixed .point⟩, ⟨.bitcoinKey2, .fixed .point⟩]
  | nodeAnnouncement =>
    [⟨.signature, .fixed .signature⟩, ⟨.features, .varBytes⟩, ⟨.timestamp, .u32⟩,
     ⟨.nodeId, .fixed .point⟩, ⟨.rgbColor, .fixed .rgbColor⟩, ⟨.nodeAlias, .fixed .nodeAlias⟩,
     ⟨.addresses, .varBytes⟩]
  | channelUpdate =>
    [⟨.signature, .fixed .signature⟩, ⟨.chainHash, .fixed .chainHash⟩,
     ⟨.shortChannelId, .shortChannelId⟩, ⟨.timestamp, .u32⟩, ⟨.messageFlags, .u8⟩,
     ⟨.channelFlags, .u8⟩, ⟨.cltvExpiryDelta, .u16⟩, ⟨.htlcMinimumMsat, .u64⟩,
     ⟨.feeBaseMsat, .u32⟩, ⟨.feeProportionalMillionths, .u32⟩, ⟨.htlcMaximumMsat, .u64⟩]
  | queryShortChannelIds => [⟨.chainHash, .fixed .chainHash⟩, ⟨.encodedShortChannelIds, .idList⟩]
  | replyShortChannelIds => [⟨.chainHash, .fixed .chainHash⟩, ⟨.fullInformation, .u8⟩]
  | queryChannelRange =>
    [⟨.chainHash, .fixed .chainHash⟩, ⟨.firstBlockNum, .u32⟩, ⟨.numberOfBlocks, .u32⟩]
  | replyChannelRange =>
    [⟨.chainHash, .fixed .chainHash⟩, ⟨.firstBlockNum, .u32⟩, ⟨.numberOfBlocks, .u32⟩,
     ⟨.syncComplete, .u8⟩, ⟨.encodedShortChannelIds, .idList⟩]
  | gossipTimestampFilter =>
    [⟨.chainHash, .fixed .chainHash⟩, ⟨.firstTimestamp, .u32⟩, ⟨.timestampRange, .u32⟩]

/-- The layout of a catalogued message. -/
def layout (kind : MessageKind) : Layout := Layout.typeSlot :: kind.body

/-- No layout names a field twice, and none holds the remainder. -/
theorem nodup_fields (kind : MessageKind) :
    (kind.layout.map Slot.field).Nodup ∧ Field.remainder ∉ kind.layout.map Slot.field := by
  cases kind <;> decide

end MessageKind

/-- The layout that goes with a type number. -/
def Layout.ofTypeId (id : UInt16) : Layout :=
  match MessageKind.ofTypeId? id with
  | some kind => kind.layout
  | none => Layout.unknown

end ChannelGossip
