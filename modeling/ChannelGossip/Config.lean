import ChannelGossip.Wire.FixedBytes

/-! # Configuration of a node

`Settings` is what an operator writes down, `Config` what a node runs with.  Every configuration
comes from settings that were checked, so the bounds on its numbers are part of its type. -/

namespace ChannelGossip

/-- What to do with frames whose type number is not in the catalogue. -/
inductive UnknownPolicy where
  /-- Keep them as messages without known fields. -/
  | preserve
  /-- Refuse them. -/
  | reject
deriving Repr, DecidableEq

namespace UnknownPolicy

/-- The word for a policy in settings. -/
def word : UnknownPolicy → String
  | preserve => "preserve"
  | reject => "reject"

/-- The policy that a word stands for. -/
def ofWord? (word : String) : Option UnknownPolicy :=
  [preserve, reject].find? (·.word == word)

end UnknownPolicy

/-- The length of the longest frame that a node can be set to accept. -/
def frameLimit : Nat := 65535

/-- The highest number of bytes that a ping may ask for and still be answered. -/
def pongLimit : Nat := 65531

/-- The highest number of ids that a part of an answer to a range query can be set to. -/
def replyIdLimit : Nat := 8000

/-- What an operator writes down. -/
structure Settings where
  version : Nat
  chain : String := ChainHash.bitcoin.hex
  maxMessageBytes : Nat := frameLimit
  unknownMessages : UnknownPolicy := .preserve
  answerPings : Bool := true
  maxPongBytes : UInt16 := .ofNat pongLimit
  maxReplyIds : Nat := replyIdLimit
deriving Repr, DecidableEq

/-- What a node runs with. -/
structure Config where
  /-- The chain as the operator wrote it. -/
  chainText : String
  chain : ChainHash
  maxMessageBytes : Nat
  unknownMessages : UnknownPolicy
  answerPings : Bool
  maxPongBytes : UInt16
  maxReplyIds : Nat
  two_le_maxMessageBytes : 2 ≤ maxMessageBytes
  maxMessageBytes_le : maxMessageBytes ≤ frameLimit
  maxPongBytes_le : maxPongBytes.toNat ≤ pongLimit
  maxReplyIds_pos : 1 ≤ maxReplyIds
  maxReplyIds_le : maxReplyIds ≤ replyIdLimit
deriving Repr, DecidableEq

/-- The version of the settings that a node understands. -/
def Config.version : Nat := 1

/-- The chain that a text names in settings. -/
def Settings.parseChain (text : String) : Except Error ChainHash :=
  (FixedBytes.parse .chainHash text).mapError fun
    | .malformed cause => .badConfig (.badChain cause)
    | e => e

/-- The configuration that settings describe.  The version is checked first, then the settings in
    the order in which they are listed. -/
def Settings.check (s : Settings) : Except Error Config := do
  if s.version ≠ Config.version then throw .unsupportedVersion
  let chain ← Settings.parseChain s.chain
  if bytes : 2 ≤ s.maxMessageBytes ∧ s.maxMessageBytes ≤ frameLimit then
    if pong : s.maxPongBytes.toNat ≤ pongLimit then
      if ids : 1 ≤ s.maxReplyIds ∧ s.maxReplyIds ≤ replyIdLimit then
        return {
          chainText := s.chain
          chain
          maxMessageBytes := s.maxMessageBytes
          unknownMessages := s.unknownMessages
          answerPings := s.answerPings
          maxPongBytes := s.maxPongBytes
          maxReplyIds := s.maxReplyIds
          two_le_maxMessageBytes := bytes.1
          maxMessageBytes_le := bytes.2
          maxPongBytes_le := pong
          maxReplyIds_pos := ids.1
          maxReplyIds_le := ids.2 }
      else throw (.badConfig (.notBetween "gossip.max_reply_ids" 1 replyIdLimit))
    else throw (.badConfig (.tooLarge "gossip.max_pong_bytes" pongLimit))
  else throw (.badConfig (.notBetween "node.max_message_bytes" 2 frameLimit))

end ChannelGossip
