import ChannelGossip.RangeReplies
import ChannelGossip.Session
import ChannelGossip.Store

/-! # Services

A service handles some kinds of messages.  What it does about one is a `Reaction`: the store as it
is then, what is to be noted about the peer, the replies to it, and what is to be passed on to
others.  A reaction depends on the store and the message alone, and a message that cannot be
handled has none, so that nothing comes of it. -/

namespace ChannelGossip

/-- Gossip to be passed on to every other peer that asked for its timestamp. -/
structure Relay where
  timestamp : UInt32
  messages : List Message
deriving Repr, DecidableEq

/-- What is done about a message. -/
structure Reaction where
  store : Store
  note : Option PeerNote := none
  replies : List Message := []
  relay : Option Relay := none

/-! ## Gossip -/

namespace Gossip

/-- Files the announcement of a channel on the node's chain.  It is not passed on before the
    channel has an update. -/
def onChannelAnnouncement (chain : ChainHash) (s : Store) (a : Recorded ChannelAnnouncement) :
    Reaction :=
  if a.contents.chainHash = chain then { store := (s.insertChannel a).1 } else { store := s }

/-- Files an update of a channel on the node's chain and passes it on if it is new.  The first
    update of a channel takes the channel's announcement along. -/
def onChannelUpdate (chain : ChainHash) (s : Store) (u : Recorded ChannelUpdate) : Reaction :=
  if u.contents.chainHash = chain then
    -- Without an update the announcement has not been passed on yet.
    let id := u.contents.shortChannelId
    let isFirst := (s.updates id).isEmpty
    match s.insertUpdate u with
    | (s', .accepted) =>
      let announcement := if isFirst then
          (s'.channels.find? id).toList.map fun r => r.announcement.message
        else []
      { store := s', relay := some ⟨u.contents.timestamp, announcement ++ [u.message]⟩ }
    | (s', _) => { store := s' }
  else { store := s }

/-- Files the announcement of a node whose addresses can be read and passes it on if it is new. -/
def onNodeAnnouncement (s : Store) (n : Recorded NodeAnnouncement) : Except Error Reaction := do
  let _ ← n.contents.netAddresses
  match s.insertNode n with
  | (s', .accepted) => return { store := s', relay := some ⟨n.contents.timestamp, [n.message]⟩ }
  | (s', _) => return { store := s' }

/-- Answers a range query, for another chain with nothing. -/
def onQueryChannelRange (chain : ChainHash) (most : Nat) (s : Store) (q : QueryChannelRange) :
    Except Error Reaction := do
  if q.chainHash = chain then
    let ids := s.idsInBlocks q.firstBlockNum.toNat q.endBlock
    let replies ← q.replies ids most
    return { store := s, replies := replies.map Contents.toMessage }
  else
    let reply ← ReplyChannelRange.create q.chainHash q.firstBlockNum q.numberOfBlocks false []
    return { store := s, replies := [Contents.toMessage reply] }

/-- Answers a query by id, for another chain with nothing. -/
def onQueryShortChannelIds (chain : ChainHash) (s : Store) (q : QueryShortChannelIds) :
    Except Error Reaction := do
  if q.chainHash = chain then
    let ids ← q.ids.ids
    let done := Contents.toMessage (ReplyShortChannelIds.create chain true)
    return { store := s, replies := s.about [] ids ++ [done] }
  else
    let refusal := Contents.toMessage (ReplyShortChannelIds.create q.chainHash false)
    return { store := s, replies := [refusal] }

/-- Notes a timestamp filter for the node's chain and sends the stored gossip that it asks for. -/
def onTimestampFilter (chain : ChainHash) (s : Store) (f : GossipTimestampFilter) : Reaction :=
  if f.chainHash = chain then { store := s, note := some (.filter f), replies := s.matching f }
  else { store := s }

/-- What is done about a gossip message. -/
def react (chain : ChainHash) (most : Nat) (s : Store) (m : Message) : Except Error Reaction := do
  match m.kind? with
  | some .channelAnnouncement =>
    return onChannelAnnouncement chain s (← m.record ChannelAnnouncement)
  | some .channelUpdate => return onChannelUpdate chain s (← m.record ChannelUpdate)
  | some .nodeAnnouncement => onNodeAnnouncement s (← m.record NodeAnnouncement)
  | some .queryChannelRange => onQueryChannelRange chain most s (← m.contents QueryChannelRange)
  | some .queryShortChannelIds =>
    onQueryShortChannelIds chain s (← m.contents QueryShortChannelIds)
  | some .gossipTimestampFilter =>
    return onTimestampFilter chain s (← m.contents GossipTimestampFilter)
  | _ => return { store := s }

end Gossip

/-! ## All services -/

/-- Something that handles messages. -/
inductive Service where
  /-- Notes the features of a peer. -/
  | init
  /-- Answers pings that ask for `most` bytes at most, if it answers at all, and counts pongs. -/
  | ping (answers : Bool) (most : UInt16)
  /-- Keeps the store, answers queries in parts of at most `most` ids, and passes news on. -/
  | gossip (chain : ChainHash) (most : Nat)
deriving Repr, DecidableEq

namespace Service

/-- The kinds of messages that a service handles. -/
def kinds : Service → List MessageKind
  | init => [.init]
  | ping .. => [.ping, .pong]
  | gossip .. =>
    [.channelAnnouncement, .nodeAnnouncement, .channelUpdate, .queryShortChannelIds,
     .replyShortChannelIds, .queryChannelRange, .replyChannelRange, .gossipTimestampFilter]

/-- What a service does about a message. -/
def react (service : Service) (s : Store) (m : Message) : Except Error Reaction := do
  match service with
  | init => return { store := s, note := some (.init (← m.contents Init)) }
  | ping answers most =>
    if m.kind? = some .pong then return { store := s, note := some .pong }
    let request ← m.contents Ping
    if answers && request.numPongBytes ≤ most then
      return { store := s, replies := [Contents.toMessage request.answer] }
    return { store := s }
  | gossip chain most => Gossip.react chain most s m

end Service

/-- Which service handles which kind of messages. -/
structure Dispatcher where
  services : Table MessageKind Service := .empty

namespace Dispatcher

/-- The dispatcher that also has a service for all its kinds, in place of any that had them. -/
def register (d : Dispatcher) (service : Service) : Dispatcher :=
  ⟨service.kinds.foldl (fun t kind => t.insert kind service) d.services⟩

/-- The dispatcher with the given services; later ones take precedence. -/
def ofServices (services : List Service) : Dispatcher := services.foldl register {}

/-- The kinds of messages that have a service, in catalogue order. -/
def registered (d : Dispatcher) : List MessageKind := MessageKind.all.filter d.services.contains

end Dispatcher

end ChannelGossip
