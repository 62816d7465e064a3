/-! # Field names

Every field that some catalogued message carries, under the name the wire format gives it.  The
fields are listed in catalogue order, which is also the order they sort in. -/

namespace ChannelGossip

/-- A field of a message.  `type` holds the message's type number and comes first in every
    message; `remainder` stands for the bytes after the last field that the layout knows. -/
inductive Field where
  | type
  | globalFeatures
  | localFeatures
  | numPongBytes
  | pingBytes
  | pongBytes
  | signature
  | nodeSignature1
  | nodeSignature2
  | bitcoinSignature1
  | bitcoinSignature2
  | channelFeatures
  | features
  | chainHash
  | shortChannelId
  | nodeId
  | nodeId1
  | nodeId2
  | bitcoinKey1
  | bitcoinKey2
  | rgbColor
  | nodeAlias
  | addresses
  | timestamp
  | messageFlags
  | channelFlags
  | cltvExpiryDelta
  | htlcMinimumMsat
  | feeBaseMsat
  | feeProportionalMillionths
  | htlcMaximumMsat
  | firstTimestamp
  | timestampRange
  | encodedShortChannelIds
  | fullInformation
  | firstBlockNum
  | numberOfBlocks
  | syncComplete
  | remainder
deriving Repr, DecidableEq

namespace Field

/-- The name of a field in text. -/
def tag : Field → String
  | type => "type"
  | globalFeatures => "global_features"
  | localFeatures => "local_features"
  | numPongBytes => "num_pong_bytes"
  | pingBytes => "ping_bytes"
  | pongBytes => "pong_bytes"
  | signature => "signature"
  | nodeSignature1 => "node_signature_1"
  | nodeSignature2 => "node_signature_2"
  | bitcoinSignature1 => "bitcoin_signature_1"
  | bitcoinSignature2 => "bitcoin_signature_2"
  | channelFeatures => "channel_features"
  | features => "features"
  | chainHash => "chain_hash"
  | shortChannelId => "short_channel_id"
  | nodeId => "node_id"
  | nodeId1 => "node_id_1"
  | nodeId2 => "node_id_2"
  | bitcoinKey1 => "bitcoin_key_1"
  | bitcoinKey2 => "bitcoin_key_2"
  | rgbColor => "rgb_color"
  | nodeAlias => "alias"
  | addresses => "addresses"
  | timestamp => "timestamp"
  | messageFlags => "message_flags"
  | channelFlags => "channel_flags"
  | cltvExpiryDelta => "cltv_expiry_delta"
  | htlcMinimumMsat => "htlc_minimum_msat"
  | feeBaseMsat => "fee_base_msat"
  | feeProportionalMillionths => "fee_proportional_millionths"
  | htlcMaximumMsat => "htlc_maximum_msat"
  | firstTimestamp => "first_timestamp"
  | timestampRange => "timestamp_range"
  | encodedShortChannelIds => "encoded_short_channel_ids"
  | fullInformation => "full_information"
  | firstBlockNum => "first_block_num"
  | numberOfBlocks => "number_of_blocks"
  | syncComplete => "sync_complete"
  | remainder => "remainder"

/-- All fields in catalogue order. -/
def all : List Field :=
  [type, globalFeatures, localFeatures, numPongBytes, pingBytes, pongBytes, signature,
   nodeSignature1, nodeSignature2, bitcoinSignature1, bitcoinSignature2, channelFeatures, features,
   chainHash, shortChannelId, nodeId, nodeId1, nodeId2, bitcoinKey1, bitcoinKey2, rgbColor,
   nodeAlias, addresses, timestamp, messageFlags, channelFlags, cltvExpiryDelta, htlcMinimumMsat,
   feeBaseMsat, feeProportionalMillionths, htlcMaximumMsat, firstTimestamp, timestampRange,
   encodedShortChannelIds, fullInformation, firstBlockNum, numberOfBlocks, syncComplete, remainder]

/-- The field with a given name. -/
def ofTag? (tag : String) : Option Field := all.find? (·.tag == tag)

/-- The place of a field in the catalogue. -/
def rank (f : Field) : Nat := all.idxOf f

/-- Fields in catalogue order. -/
def sort (fs : List Field) : List Field := fs.mergeSort fun f g => f.rank ≤ g.rank

/-- The catalogue leaves no field out. -/
theorem mem_all (f : Field) : f ∈ all := by cases f <;> decide

end Field

end ChannelGossip
