import ChannelGossip.Contents.Announcement
import ChannelGossip.Contents.Query
import ChannelGossip.Table

/-! # The gossip store

What a node knows about the network: the announced channels, each with the newest update from
either end, and the newest announcement of each node.  Every entry keeps the message as it was
received next to its contents, and it is that message which is passed on.

The queries answer in fixed orders: channels by ascending id, the first end's update before the
second's, nodes by ascending id. -/

namespace ChannelGossip

/-- The contents of a message next to the message itself. -/
structure Recorded (α : Type) where
  contents : α
  message : Message
deriving Repr, DecidableEq

/-- A message with its contents, if it is of the right kind. -/
def Message.record (α : Type) [Contents α] (m : Message) : Except Error (Recorded α) :=
  (m.contents α).map (⟨·, m⟩)

/-! ## Channels -/

/-- A channel: its announcement and the newest update from each end. -/
structure ChannelRecord where
  announcement : Recorded ChannelAnnouncement
  fromFirst : Option (Recorded ChannelUpdate) := none
  fromSecond : Option (Recorded ChannelUpdate) := none
deriving Repr, DecidableEq

namespace ChannelRecord

/-- The newest update from one end. -/
def newest (r : ChannelRecord) : Direction → Option (Recorded ChannelUpdate)
  | .fromFirst => r.fromFirst
  | .fromSecond => r.fromSecond

/-- The channel with another update from the end that the update comes from. -/
def withUpdate (r : ChannelRecord) (u : Recorded ChannelUpdate) : ChannelRecord :=
  match u.contents.direction with
  | .fromFirst => { r with fromFirst := some u }
  | .fromSecond => { r with fromSecond := some u }

/-- The updates, the first end's before the second's. -/
def updates (r : ChannelRecord) : List (Recorded ChannelUpdate) :=
  r.fromFirst.toList ++ r.fromSecond.toList

/-- The messages of a channel in the order in which they are sent. -/
def messages (r : ChannelRecord) : List Message :=
  r.announcement.message :: r.updates.map Recorded.message

/-- The ids of the two nodes that own a channel. -/
def nodeIds (r : ChannelRecord) : List Point :=
  [r.announcement.contents.nodeId1, r.announcement.contents.nodeId2]

end ChannelRecord

/-! ## The store -/

/-- What became of a message that was offered to the store. -/
inductive StoreOutcome where
  | accepted
  /-- It was known already, or is no newer than what is stored. -/
  | stale
  /-- It updates a channel that was never announced. -/
  | unknownChannel
deriving Repr, DecidableEq

/-- Channels by short channel id, and nodes by node id. -/
structure Store where
  channels : Table ShortChannelId ChannelRecord := .empty
  nodes : Table Point (Recorded NodeAnnouncement) := .empty

namespace Store

/-- The store that knows nothing. -/
def empty : Store := {}

/-- Files a channel, unless one with its id is known. -/
def insertChannel (s : Store) (a : Recorded ChannelAnnouncement) : Store × StoreOutcome :=
  let id := a.contents.shortChannelId
  match s.channels.find? id with
  | some _ => (s, .stale)
  | none => ({ s with channels := s.channels.insert id { announcement := a } }, .accepted)

/-- Files an update of a known channel, unless the one stored for its direction is as new. -/
def insertUpdate (s : Store) (u : Recorded ChannelUpdate) : Store × StoreOutcome :=
  let id := u.contents.shortChannelId
  match s.channels.find? id with
  | none => (s, .unknownChannel)
  | some r =>
    let isStale := (r.newest u.contents.direction).any fun current =>
      u.contents.timestamp ≤ current.contents.timestamp
    if isStale then (s, .stale)
    else ({ s with channels := s.channels.insert id (r.withUpdate u) }, .accepted)

/-- Files a node, unless the announcement stored for it is as new. -/
def insertNode (s : Store) (n : Recorded NodeAnnouncement) : Store × StoreOutcome :=
  let id := n.contents.nodeId
  let isStale := (s.nodes.find? id).any fun current =>
    n.contents.timestamp ≤ current.contents.timestamp
  if isStale then (s, .stale)
  else ({ s with nodes := s.nodes.insert id n }, .accepted)

/-- The updates of a channel, none if it is not known. -/
def updates (s : Store) (id : ShortChannelId) : List (Recorded ChannelUpdate) :=
  ((s.channels.find? id).map ChannelRecord.updates).getD []

/-- The messages of a channel, none if it is not known. -/
def channelMessages (s : Store) (id : ShortChannelId) : List Message :=
  ((s.channels.find? id).map ChannelRecord.messages).getD []

/-! ## Queries -/

/-- The ids of the channels funded in the blocks from `first` up to but not including `stop`. -/
def idsInBlocks (s : Store) (first stop : Nat) : List ShortChannelId :=
  ShortChannelId.sort (s.channels.keys.filter fun id => first ≤ id.block && id.block < stop)

/-- The messages of a channel of which an update falls into the filter's window: the announcement
    and the updates that do. -/
def matchingChannel (f : GossipTimestampFilter) (r : ChannelRecord) : List Message :=
  match r.updates.filter fun u => f.matches u.contents.timestamp with
  | [] => []
  | matching => r.announcement.message :: matching.map Recorded.message

/-- The stored gossip that falls into the filter's window: channels first, then nodes. -/
def matching (s : Store) (f : GossipTimestampFilter) : List Message :=
  let channels := s.channels.entries.mergeSort fun a b => a.1.raw.toNat ≤ b.1.raw.toNat
  let nodes := (s.nodes.entries.filter fun (_, n) => f.matches n.contents.timestamp).mergeSort
    fun a b => a.1.bytes ≤ b.1.bytes
  channels.flatMap (fun (_, r) => matchingChannel f r) ++ nodes.map fun (_, n) => n.message

/-- The stored messages about the listed channels, in the order of the list: each known channel's
    own, then the announcements of its nodes.  A node that came up before is left out; `considered`
    holds those. -/
def about (s : Store) (considered : List Point) : List ShortChannelId → List Message
  | [] => []
  | id :: ids =>
    match s.channels.find? id with
    | none => about s considered ids
    | some r =>
      let fresh := r.nodeIds.eraseDups.filter fun node => !considered.contains node
      let nodes := fresh.filterMap fun node => (s.nodes.find? node).map Recorded.message
      r.messages ++ nodes ++ about s (fresh ++ considered) ids

end Store

end ChannelGossip
