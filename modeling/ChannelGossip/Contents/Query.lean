import ChannelGossip.Contents.Basic

/-! # Queries

How a peer asks for gossip: for the channels funded in a range of blocks, for everything about
given channels, or for all gossip from a window of time. -/

namespace ChannelGossip

/-- The byte for a yes or a no. -/
def flag (b : Bool) : UInt8 := if b then 1 else 0

/-! ## Queries by id -/

/-- A request for everything about the listed channels. -/
structure QueryShortChannelIds where
  chainHash : ChainHash
  ids : IdList
deriving Repr, DecidableEq

instance : Contents QueryShortChannelIds where
  kind := .queryShortChannelIds
  values c := [.fixed c.chainHash, .idList c.ids]
  ofValues?
    | [@Value.fixed .chainHash chainHash, .idList ids] => some ⟨chainHash, ids⟩
    | _ => none

/-- A request for the given channels, if they fit one list. -/
def QueryShortChannelIds.create (chain : ChainHash) (ids : List ShortChannelId) :
    Except Error QueryShortChannelIds :=
  (IdList.ofIds ids).map (⟨chain, ·⟩)

/-- The end of an answer to a query by id. -/
structure ReplyShortChannelIds where
  chainHash : ChainHash
  fullInformation : UInt8
deriving Repr, DecidableEq

instance : Contents ReplyShortChannelIds where
  kind := .replyShortChannelIds
  values c := [.fixed c.chainHash, .u8 c.fullInformation]
  ofValues?
    | [@Value.fixed .chainHash chainHash, .u8 fullInformation] => some ⟨chainHash, fullInformation⟩
    | _ => none

/-- The end of an answer from a node that does or does not keep the whole chain. -/
def ReplyShortChannelIds.create (chain : ChainHash) (full : Bool) : ReplyShortChannelIds :=
  ⟨chain, flag full⟩

/-! ## Queries by block -/

/-- A request for the ids of all channels funded in a range of blocks. -/
structure QueryChannelRange where
  chainHash : ChainHash
  firstBlockNum : UInt32
  numberOfBlocks : UInt32
deriving Repr, DecidableEq

instance : Contents QueryChannelRange where
  kind := .queryChannelRange
  values c := [.fixed c.chainHash, .u32 c.firstBlockNum, .u32 c.numberOfBlocks]
  ofValues?
    | [@Value.fixed .chainHash chainHash, .u32 firstBlockNum, .u32 numberOfBlocks] =>
      some ⟨chainHash, firstBlockNum, numberOfBlocks⟩
    | _ => none

namespace QueryChannelRange

/-- The first block after the range, which may lie beyond 2^32. -/
def endBlock (q : QueryChannelRange) : Nat := q.firstBlockNum.toNat + q.numberOfBlocks.toNat

/-- Whether a block lies in the range. -/
def containsBlock (q : QueryChannelRange) (height : Nat) : Bool :=
  q.firstBlockNum.toNat ≤ height && height < q.endBlock

end QueryChannelRange

/-- One part of the answer to a query by block. -/
structure ReplyChannelRange where
  chainHash : ChainHash
  firstBlockNum : UInt32
  numberOfBlocks : UInt32
  syncComplete : UInt8
  ids : IdList
deriving Repr, DecidableEq

instance : Contents ReplyChannelRange where
  kind := .replyChannelRange
  values c :=
    [.fixed c.chainHash, .u32 c.firstBlockNum, .u32 c.numberOfBlocks, .u8 c.syncComplete,
     .idList c.ids]
  ofValues?
    | [@Value.fixed .chainHash chainHash, .u32 firstBlockNum, .u32 numberOfBlocks,
       .u8 syncComplete, .idList ids] =>
      some ⟨chainHash, firstBlockNum, numberOfBlocks, syncComplete, ids⟩
    | _ => none

/-- A part with the given ids, if they fit one list. -/
def ReplyChannelRange.create (chain : ChainHash) (first count : UInt32) (syncComplete : Bool)
    (ids : List ShortChannelId) : Except Error ReplyChannelRange :=
  (IdList.ofIds ids).map (⟨chain, first, count, flag syncComplete, ·⟩)

/-! ## The timestamp filter -/

/-- A request for all gossip whose timestamp lies in a window, what is stored and what is to
    come. -/
structure GossipTimestampFilter where
  chainHash : ChainHash
  firstTimestamp : UInt32
  timestampRange : UInt32
deriving Repr, DecidableEq

instance : Contents GossipTimestampFilter where
  kind := .gossipTimestampFilter
  values c := [.fixed c.chainHash, .u32 c.firstTimestamp, .u32 c.timestampRange]
  ofValues?
    | [@Value.fixed .chainHash chainHash, .u32 firstTimestamp, .u32 timestampRange] =>
      some ⟨chainHash, firstTimestamp, timestampRange⟩
    | _ => none

/-- Whether a timestamp lies in the window.  The end of the window may lie beyond 2^32. -/
def GossipTimestampFilter.matches (f : GossipTimestampFilter) (timestamp : UInt32) : Bool :=
  f.firstTimestamp.toNat ≤ timestamp.toNat
    && timestamp.toNat < f.firstTimestamp.toNat + f.timestampRange.toNat

end ChannelGossip
