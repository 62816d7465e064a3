import ChannelGossip.Node
import ChannelGossip.Text.Blank

/-! # Replays

A replay plays the frames of a text to a node as one peer: one frame a line in hexadecimal, blank
lines and lines that start with `#` left out.  What cannot be read or handled is counted and
passed over, except that a message of an even type outside the catalogue ends the replay as it
would end a connection.  The messages that the node queued to the peer are the output. -/

namespace ChannelGossip

/-- What a replay has counted. -/
structure ReplayStats where
  frames : Nat := 0
  handled : Nat := 0
  ignored : Nat := 0
  rejected : Nat := 0
  replies : Nat := 0
  /-- Whether the peer would have been disconnected. -/
  failed : Bool := false
deriving Repr, DecidableEq

/-- Whether a replay goes on. -/
inductive ReplayState where
  | reading
  /-- The peer would have been disconnected. -/
  | disconnected
  /-- The node or its input is at fault. -/
  | broken (e : Error)
deriving Repr, DecidableEq

/-- A replay under way. -/
structure Replay where
  node : Node
  peer : String
  /-- The number of the replay's own session. -/
  session : Nat
  stats : ReplayStats
  state : ReplayState

namespace Replay

/-- A replay as the given peer, which gets a session of its own. -/
def start (n : Node) (peer : String) : Replay where
  node := n.openSession peer Session.defaultCapacity
  peer := peer
  session := n.nextSession
  stats := {}
  state := .reading

/-- Counts something in the node's metrics. -/
def count (r : Replay) (name : CounterName) (labels : Labels) (amount : UInt64) : Replay :=
  { r with node := { r.node with metrics := r.node.metrics.add name labels amount } }

/-- The frame in a line, `none` if the line holds none. -/
def frame? (line : Bytes) : Except Error (Option String) := do
  let text ← (Text.Utf8.decode line).mapError (.internal <| .unreadableLine ·)
  let text := Text.trim text
  if text.isEmpty || text.toList.head? == some '#' then return none
  return some text

/-- The message that a frame in hexadecimal holds, with the length of the frame. -/
def read (limits : FrameLimits) (text : String) : Except Error (Message × Nat) := do
  let frame ← (Text.Hex.decode text).mapError (.malformed <| .badFrame ·)
  return (← limits.accept frame, frame.length)

/-- Reads a line and counts what it holds; the message, if there is one, is still to be handled. -/
def accept (r : Replay) (line : Bytes) : Replay × Option Message :=
  match frame? line with
  | .error e => ({ r with state := .broken e }, none)
  | .ok none => (r, none)
  | .ok (some text) =>
    let r := { r with stats := { r.stats with frames := r.stats.frames + 1 } }
    match read r.node.limits text with
    | .error e =>
      if e.isInternal then ({ r with state := .broken e }, none)
      else
        let r := r.count .decodeErrors [("code", e.code)] 1
        ({ r with stats := { r.stats with rejected := r.stats.rejected + 1 } }, none)
    | .ok (m, length) =>
      let labels := [("type", m.name)]
      ((r.count .messagesIn labels 1).count .inboundBytes labels (.ofNat length), some m)

/-- Hands a message to the node. -/
def handle (r : Replay) (m : Message) : Step Disposition :=
  r.node.dispatch r.node.dispatcher r.session m

/-- Counts how a message was handled and how long it took. -/
def settle (r : Replay) (m : Message) (step : Step Disposition) (nanos : Nat) : Replay :=
  let labels := [("type", m.name)]
  let r := { r with node :=
    { step.node with metrics := step.node.metrics.observe labels nanos } }
  match step.result with
  | .ok .handled => { r with stats := { r.stats with handled := r.stats.handled + 1 } }
  | .ok .ignored =>
    let r := r.count .ignored labels 1
    { r with stats := { r.stats with ignored := r.stats.ignored + 1 } }
  | .error e =>
    -- A fault of the node breaks the replay off without being counted.
    if e.isInternal then { r with state := .broken e }
    else
      let r := r.count .serviceErrors [("code", e.code)] 1
      let r := { r with stats := { r.stats with rejected := r.stats.rejected + 1 } }
      match e with
      | .unknownType _ =>
        { r with stats := { r.stats with failed := true }, state := .disconnected }
      | _ => r

/-- Plays one line, which takes `nanos` nanoseconds to handle. -/
def play (nanos : Nat) (r : Replay) (line : Bytes) : Replay :=
  match r.state with
  | .reading =>
    match r.accept line with
    | (r, none) => r
    | (r, some m) => r.settle m (r.handle m) nanos
  | _ => r

/-- The frames of the messages that the node has queued to the peer. -/
def output (r : Replay) : List String :=
  match r.node.sessions[r.session]? with
  | some s => s.outbox.contents.map fun m => Text.Hex.encode m.encode
  | none => []

/-- The node after the replay. -/
def finish (r : Replay) : Node := r.node.unregister r.peer

/-- What a replay has to tell at its end. -/
structure Report where
  stats : ReplayStats
  output : List String
deriving Repr, DecidableEq

/-- The report of a replay that was not broken off by a fault. -/
def report (r : Replay) : Except Error Report :=
  match r.state with
  | .broken e => .error e
  | _ => .ok ⟨{ r.stats with replies := r.output.length }, r.output⟩

/-- Plays a whole text, where the handling of the `i`-th line takes `nanos i` nanoseconds. -/
def run (n : Node) (peer : String) (nanos : Nat → Nat) (input : Bytes) : Replay :=
  (Text.lines input).zipIdx.foldl (fun r (line, i) => r.play (nanos i) line) (start n peer)

end Replay

end ChannelGossip
