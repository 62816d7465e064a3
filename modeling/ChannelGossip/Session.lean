import ChannelGossip.Contents.Connection
import ChannelGossip.Contents.Query
import ChannelGossip.Outbox

/-! # Sessions

A session is a connection to one peer: the messages on their way to it, and what the peer has told
about itself. -/

namespace ChannelGossip

/-- A connection to a peer. -/
structure Session where
  peer : String
  outbox : Outbox
  /-- The last `init` of the peer. -/
  init : Option Init := none
  /-- The last timestamp filter that the peer set. -/
  filter : Option GossipTimestampFilter := none
  /-- How many pongs the peer has sent. -/
  pongs : UInt64 := 0

/-- What a message tells about the peer that sent it. -/
inductive PeerNote where
  | init (contents : Init)
  | filter (contents : GossipTimestampFilter)
  | pong
deriving Repr, DecidableEq

namespace Session

/-- The number of messages that wait for a peer at most, unless told otherwise. -/
def defaultCapacity : Nat := 256

/-- A new session with a peer. -/
def create (peer : String) (capacity : Nat) : Session := { peer, outbox := .create capacity }

/-- The session after the peer has told something about itself. -/
def record (s : Session) : PeerNote → Session
  | .init contents => { s with init := some contents }
  | .filter contents => { s with filter := some contents }
  | .pong => { s with pongs := s.pongs + 1 }

/-- Whether the peer has asked for gossip with the given timestamp. -/
def wants (s : Session) (timestamp : UInt32) : Bool := s.filter.any (·.matches timestamp)

end Session

end ChannelGossip
