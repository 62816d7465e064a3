import ChannelGossip.Contents.Basic

/-! # Messages about the connection

`init` opens a connection and tells which features a peer has; `ping` and `pong` keep it alive. -/

namespace ChannelGossip

/-! ## Init -/

/-- The features that a peer announces. -/
structure Init where
  globalFeatures : VarBytes
  localFeatures : VarBytes
deriving Repr, DecidableEq

instance : Contents Init where
  kind := .init
  values c := [.varBytes c.globalFeatures, .varBytes c.localFeatures]
  ofValues?
    | [.varBytes globalFeatures, .varBytes localFeatures] => some ⟨globalFeatures, localFeatures⟩
    | _ => none

/-! ## Ping and pong -/

/-- A request for a pong with `numPongBytes` bytes of payload.  The request's own payload is there
    to be ignored. -/
structure Ping where
  numPongBytes : UInt16
  pingBytes : VarBytes
deriving Repr, DecidableEq

instance : Contents Ping where
  kind := .ping
  values c := [.u16 c.numPongBytes, .varBytes c.pingBytes]
  ofValues?
    | [.u16 numPongBytes, .varBytes pingBytes] => some ⟨numPongBytes, pingBytes⟩
    | _ => none

/-- The answer to a ping. -/
structure Pong where
  pongBytes : VarBytes
deriving Repr, DecidableEq

instance : Contents Pong where
  kind := .pong
  values c := [.varBytes c.pongBytes]
  ofValues?
    | [.varBytes pongBytes] => some ⟨pongBytes⟩
    | _ => none

/-- A ping with the given payload, if the payload is not too long. -/
def Ping.create (numPongBytes : UInt16) (payload : Bytes) : Except Error Ping :=
  (VarBytes.ofBytes payload).map (⟨numPongBytes, ·⟩)

/-- The byte that pongs are filled with: the digit zero. -/
def Pong.filler : UInt8 := 48

/-- The pong that answers a ping: as many filler bytes as it asks for. -/
def Ping.answer (ping : Ping) : Pong := ⟨.filled Pong.filler ping.numPongBytes⟩

end ChannelGossip
