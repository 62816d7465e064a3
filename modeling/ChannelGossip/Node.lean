import ChannelGossip.FrameLimits
import ChannelGossip.Metrics
import ChannelGossip.Service

/-! # The node

A node has a store, metrics and sessions.  Sessions are numbered as they are opened and are never
forgotten; the registry says which of them is the current one for each peer, and gossip is passed
on to registered sessions only.  A session that is not registered (any more) can still be used.

Handling a message is one step: the service in charge reacts, what it learned is noted, its
replies are sent to the session that the message came from, and its news are offered to the other
peers.  A step tells which messages it queued to which session, in order. -/

namespace ChannelGossip

/-- A node at work. -/
structure Node where
  config : Config
  store : Store := .empty
  /-- All sessions by number. -/
  sessions : List Session := []
  /-- The number of the current session for each peer. -/
  registry : Table String Nat := .empty
  metrics : Metrics := .empty

/-- A message that was queued to the session with the given number. -/
structure Queued where
  session : Nat
  message : Message
deriving Repr, DecidableEq

/-- What became of a message that was handed to the node. -/
inductive Disposition where
  | handled
  /-- It is of an odd type outside the catalogue, or of a kind that no service handles. -/
  | ignored
deriving Repr, DecidableEq

/-- The node after a step, what the step queued, and how it ended. -/
structure Step (α : Type) where
  node : Node
  queued : List Queued
  result : Except Error α

namespace Node

/-- A node that has just started. -/
def start (config : Config) : Node := { config }

/-- The frames that a node accepts. -/
def limits (n : Node) : FrameLimits := .ofConfig n.config

/-- The services of a node. -/
def dispatcher (n : Node) : Dispatcher :=
  .ofServices
    [.init, .ping n.config.answerPings n.config.maxPongBytes,
     .gossip n.config.chain n.config.maxReplyIds]

/-! ## Sessions -/

/-- The node with one session changed. -/
def updateSession (n : Node) (number : Nat) (f : Session → Session) : Node :=
  { n with sessions := n.sessions.modify number f }

/-- The number of the session that is opened next. -/
def nextSession (n : Node) : Nat := n.sessions.length

/-- The node with a new session, which is the current one for its peer. -/
def openSession (n : Node) (peer : String) (capacity : Nat) : Node :=
  { n with
    sessions := n.sessions ++ [.create peer capacity]
    registry := n.registry.insert peer n.nextSession }

/-- The node without a current session for a peer. -/
def unregister (n : Node) (peer : String) : Node := { n with registry := n.registry.erase peer }

/-- The peers that have a current session, but for one. -/
def otherPeers (n : Node) (peer : String) : List String :=
  (n.registry.keys.filter (· ≠ peer)).mergeSort fun a b => a ≤ b

/-! ## Queueing -/

/-- Counts messages that were queued to a peer. -/
def countOut (n : Node) (ms : List Message) : Node :=
  { n with
    metrics := ms.foldl (fun t m => t.increment .messagesOut [("type", m.name)]) n.metrics }

/-- Sends messages to a session, waiting for room. -/
def send (n : Node) (number : Nat) (ms : List Message) : Step Unit :=
  match n.sessions[number]? with
  | none => ⟨n, [], .error (.internal (.noSession number))⟩
  | some s =>
    match s.outbox.send? ms with
    | none => ⟨n, [], .error (.internal (.queueClosed s.peer))⟩
    | some outbox =>
      ⟨(n.updateSession number fun s => { s with outbox }).countOut ms, ms.map (⟨number, ·⟩),
        .ok ()⟩

/-- Offers messages to a session; those that find no room are dropped. -/
def offer (n : Node) (number : Nat) (ms : List Message) : Step Unit :=
  match n.sessions[number]? with
  | none => ⟨n, [], .error (.internal (.noSession number))⟩
  | some s =>
    let queued := s.outbox.accepted ms
    let n :=
      (n.updateSession number fun s => { s with outbox := s.outbox.offer ms }).countOut queued
    let result :=
      if queued.length = ms.length then .ok ()
      else if s.outbox.isOpen then .error (.internal (.queueFull s.peer))
      else .error (.internal (.queueClosed s.peer))
    ⟨n, queued.map (⟨number, ·⟩), result⟩

/-- The numbers of the sessions that get news of the given timestamp from a peer: the current
    sessions of all other peers that want it. -/
def audience (n : Node) (sender : String) (timestamp : UInt32) : List Nat :=
  (n.registry.entries.filter fun (peer, number) =>
    peer ≠ sender && (n.sessions[number]?).any (·.wants timestamp)).map Prod.snd

/-- Passes news from a peer on.  Nobody is told if they find no room. -/
def relay (n : Node) (sender : String) (news : Relay) : Step Unit :=
  (n.audience sender news.timestamp).foldl (fun step number =>
    let next := step.node.offer number news.messages
    ⟨next.node, step.queued ++ next.queued, .ok ()⟩) ⟨n, [], .ok ()⟩

/-! ## Handling -/

/-- Does what a service wants done about a message from a session. -/
def apply (n : Node) (number : Nat) (r : Reaction) : Step Unit :=
  -- What was learned stays noted even if the replies cannot be queued.
  let noted := { n with store := r.store }.updateSession number fun s =>
    r.note.elim s s.record
  let sent := noted.send number r.replies
  -- News are passed on only after the peer that brought them has its replies.
  match sent.result, r.relay, n.sessions[number]? with
  | .ok (), some news, some s =>
    let relayed := sent.node.relay s.peer news
    ⟨relayed.node, sent.queued ++ relayed.queued, .ok ()⟩
  | _, _, _ => sent

/-- Handles a message from a session.  A type number outside the catalogue is ignored if it is odd
    and refused if it is even. -/
def dispatch (n : Node) (services : Dispatcher) (number : Nat) (m : Message) : Step Disposition :=
  match m.kind? with
  | none =>
    if isOddType m.typeId then ⟨n, [], .ok .ignored⟩ else ⟨n, [], .error (.unknownType m.typeId)⟩
  | some kind =>
    match services.services.find? kind with
    | none => ⟨n, [], .ok .ignored⟩
    | some service =>
      match service.react n.store m with
      | .error e => ⟨n, [], .error e⟩
      | .ok reaction =>
        let step := n.apply number reaction
        ⟨step.node, step.queued, step.result.map fun _ => .handled⟩

end Node

end ChannelGossip
