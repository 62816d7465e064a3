/-! # Catalogued messages

The messages whose contents are known, with their type numbers and names.  A type number that
is not in the catalogue is judged by its parity: a peer may ignore odd ones. -/

namespace ChannelGossip

/-- A message of the catalogue. -/
inductive MessageKind where
  | init
  | ping
  | pong
  | channelAnnouncement
  | nodeAnnouncement
  | channelUpdate
  | queryShortChannelIds
  | replyShortChannelIds
  | queryChannelRange
  | replyChannelRange
  | gossipTimestampFilter
deriving Repr, DecidableEq

namespace MessageKind

/-- The catalogue in order. -/
def all : List MessageKind :=
  [init, ping, pong, channelAnnouncement, nodeAnnouncement, channelUpdate, queryShortChannelIds,
   replyShortChannelIds, queryChannelRange, replyChannelRange, gossipTimestampFilter]

/-- The type number that a message starts with. -/
def typeId : MessageKind → UInt16
  | init => 16
  | ping => 18
  | pong => 19
  | channelAnnouncement => 256
  | nodeAnnouncement => 257
  | channelUpdate => 258
  | queryShortChannelIds => 261
  | replyShortChannelIds => 262
  | queryChannelRange => 263
  | replyChannelRange => 264
  | gossipTimestampFilter => 265

/-- The name of a message in text. -/
def name : MessageKind → String
  | init => "init"
  | ping => "ping"
  | pong => "pong"
  | channelAnnouncement => "channel_announcement"
  | nodeAnnouncement => "node_announcement"
  | channelUpdate => "channel_update"
  | queryShortChannelIds => "query_short_channel_ids"
  | replyShortChannelIds => "reply_short_channel_ids"
  | queryChannelRange => "query_channel_range"
  | replyChannelRange => "reply_channel_range"
  | gossipTimestampFilter => "gossip_timestamp_filter"

/-- The catalogued message with a type number. -/
def ofTypeId? (id : UInt16) : Option MessageKind := all.find? (·.typeId == id)

/-- The catalogued message with a name. -/
def ofName? (name : String) : Option MessageKind := all.find? (·.name == name)

/-- The name that stands for a message, or for the lack of one. -/
def nameOf : Option MessageKind → String
  | some kind => kind.name
  | none => "unknown"

/-- A type number names the message it belongs to. -/
@[simp] theorem ofTypeId?_typeId (kind : MessageKind) : ofTypeId? kind.typeId = some kind := by
  cases kind <;> decide

/-- A message is found only under its own type number. -/
theorem typeId_of_ofTypeId? {id : UInt16} {kind : MessageKind} (h : ofTypeId? id = some kind) :
    kind.typeId = id := by
  simpa using List.find?_some h

/-- Type numbers and catalogued messages determine each other. -/
theorem ofTypeId?_eq_some_iff {id : UInt16} {kind : MessageKind} :
    ofTypeId? id = some kind ↔ id = kind.typeId :=
  ⟨fun h => (typeId_of_ofTypeId? h).symm, fun h => h ▸ ofTypeId?_typeId kind⟩

end MessageKind

/-- The name of the message with a type number. -/
def typeName (id : UInt16) : String := MessageKind.nameOf (MessageKind.ofTypeId? id)

/-- Whether a peer may ignore a type number that it does not know. -/
def isOddType (id : UInt16) : Bool := id.toNat % 2 == 1

end ChannelGossip
