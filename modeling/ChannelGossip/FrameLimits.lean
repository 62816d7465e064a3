import ChannelGossip.Config
import ChannelGossip.Message

/-! # Accepting frames

What a node takes from the network: frames up to a length, with or without type numbers outside
the catalogue.  The length is judged before anything is read. -/

namespace ChannelGossip

/-- Which frames a node accepts. -/
structure FrameLimits where
  maxMessageBytes : Nat
  unknownMessages : UnknownPolicy
deriving Repr, DecidableEq

namespace FrameLimits

/-- The limits of a node whose settings name none. -/
def default : FrameLimits := ⟨frameLimit, .preserve⟩

/-- The limits that a configuration sets. -/
def ofConfig (config : Config) : FrameLimits := ⟨config.maxMessageBytes, config.unknownMessages⟩

/-- The message in a frame, if the frame is acceptable. -/
def accept (limits : FrameLimits) (frame : Bytes) : Except Error Message :=
  if frame.length > limits.maxMessageBytes then
    .error (.tooLarge frame.length limits.maxMessageBytes)
  else
    match limits.unknownMessages with
    | .preserve => Message.decode frame
    | .reject => Message.decodeKnown frame

end FrameLimits

end ChannelGossip
