import ChannelGossip.Proofs.Node.Counting
import ChannelGossip.Proofs.Node.Refusal
import ChannelGossip.Proofs.Replay.Frames

/-! # Replays frame by frame

What a frame does to a replay comes down to its outcome: the message that it holds, if any, and how
the handling of that message ended.  A replay is thus a run of its node, in which the messages of
the frames are handled, with a record of the outcomes on the side.  Main statements:

* `Replay.Outcome`, `Replay.advance`   what a frame does to a replay
* `Replay.IsReading.play_eq_advance`   playing a line is that and nothing else
* `Replay.HasSession.ends_outcome_iff`   which frames end the replay -/

namespace ChannelGossip

/-! ## Outcomes -/

namespace Replay

/-- What comes of a frame. -/
inductive Outcome where
  /-- It cannot be read, for a reason with the given code. -/
  | unread (code : String)
  /-- It holds a message, and the handling of the message ended in the given way. -/
  | read (m : Message) (length : Nat) (result : Except Error Disposition)

/-- Whether a frame ends the replay. -/
def Outcome.ends : Outcome → Bool
  | .read _ _ (.error (.unknownType _)) => true
  | _ => false

/-- A frame that can be read ends the replay if the error is `unknownType`. -/
theorem Outcome.ends_read_iff {m : Message} {length : Nat} {result : Except Error Disposition} :
    (Outcome.read m length result).ends = true ↔ ∃ id, result = .error (.unknownType id) := by
  cases result with
  | ok disposition => simp [ends]
  | error e => cases e <;> simp [ends]

/-- The message in a frame that can be read, with the length of the frame. -/
def Outcome.decoded : Outcome → List (Message × Nat)
  | .unread _ => []
  | .read m length _ => [(m, length)]

end Replay

/-- What is counted of a frame for the report. -/
def ReplayStats.record (s : ReplayStats) (o : Replay.Outcome) : ReplayStats :=
  let s := { s with frames := s.frames + 1 }
  match o with
  | .unread _ => { s with rejected := s.rejected + 1 }
  | .read _ _ (.ok .handled) => { s with handled := s.handled + 1 }
  | .read _ _ (.ok .ignored) => { s with ignored := s.ignored + 1 }
  | .read _ _ (.error _) =>
    { s with rejected := s.rejected + 1, failed := o.ends || s.failed }

/-- A replay fails over a frame that `ends` it. -/
theorem ReplayStats.failed_record (s : ReplayStats) (o : Replay.Outcome) :
    (s.record o).failed = (o.ends || s.failed) := by
  cases o with
  | unread code => rfl
  | read m length result =>
    cases result with
    | ok disposition => cases disposition <;> rfl
    | error e => rfl

namespace Metrics

/-- What is counted of a message that arrives in a frame of `length` bytes. -/
def arrive (t : Metrics) (m : Message) (length : Nat) : Metrics :=
  (t.increment .messagesIn [("type", m.name)]).add .inboundBytes [("type", m.name)] (.ofNat length)

/-- What is counted of a message whose handling has ended. -/
def settle (t : Metrics) (m : Message) (result : Except Error Disposition) (nanos : Nat) :
    Metrics :=
  let t := t.observe [("type", m.name)] nanos
  match result with
  | .ok .handled => t
  | .ok .ignored => t.increment .ignored [("type", m.name)]
  | .error e => t.increment .serviceErrors [("code", e.code)]

/-- What is counted of a frame, about which the node has sent the given messages. -/
def record (t : Metrics) (o : Replay.Outcome) (sent : List Message) (nanos : Nat) : Metrics :=
  match o with
  | .unread code => t.increment .decodeErrors [("code", code)]
  | .read m length result => ((t.arrive m length).countSent sent).settle m result nanos

end Metrics

namespace Replay

variable {r : Replay} {n : Node} {limits : FrameLimits} {peer text : String} {o : Outcome}

/-- What comes of a frame in a replay. -/
def outcome (r : Replay) (text : String) : Outcome :=
  match read r.node.limits text with
  | .error e => .unread e.code
  | .ok (m, length) => .read m length (r.handle m).result

/-- What happens to the node about a frame. -/
def events (r : Replay) (o : Outcome) : List Node.Event :=
  o.decoded.map fun frame => .dispatch r.session frame.1

/-- The messages that the node sends about a frame. -/
def sent (r : Replay) (o : Outcome) : List Message :=
  (r.node.queuedIn (r.events o)).map Queued.message

/-- What is sent about a frame with a message is what is queued in handling the message. -/
theorem sent_read (r : Replay) (m : Message) (length : Nat) (result : Except Error Disposition) :
    r.sent (.read m length result) = (r.handle m).queued.map Queued.message :=
  congrArg (List.map Queued.message) (List.append_nil _)

/-- The replay after a frame with the outcome `o`. -/
def record (r : Replay) (o : Outcome) (nanos : Nat) : Replay :=
  { r with
    node := (r.node.run (r.events o)).withMetrics (r.node.metrics.record o (r.sent o) nanos)
    stats := r.stats.record o
    state := if o.ends then .disconnected else r.state }

/-- The replay after a frame. -/
def advance (r : Replay) (text : String) (nanos : Nat) : Replay := r.record (r.outcome text) nanos

/-! ## One line -/

/-- The session of a replay is one of its peer, is read by somebody, and has the messages `ms` on
    their way. -/
def HasSession (r : Replay) (ms : List Message) : Prop :=
  ∃ s, r.node.sessions[r.session]? = some s ∧ s.peer = r.peer ∧ s.outbox.isOpen ∧
    s.outbox.contents = ms

/-- A replay that goes on. -/
structure IsReading (r : Replay) : Prop where
  state_eq : r.state = .reading
  hasSession : ∃ ms, r.HasSession ms

/-- `accept` counts a frame that can be read before the message in it is handled. -/
theorem accept_of_read {line : Bytes} {m : Message} {length : Nat}
    (hline : frame? line = .ok (some text)) (hread : read r.node.limits text = .ok (m, length)) :
    r.accept line =
      ({ r with
          node := r.node.withMetrics (r.node.metrics.arrive m length)
          stats := { r.stats with frames := r.stats.frames + 1 } }, some m) := by
  simp only [accept, hline, hread]
  rfl

/-- What has been counted makes no difference to `handle`. -/
theorem handle_withMetrics (r : Replay) (t : Metrics) (stats : ReplayStats) (m : Message) :
    { r with node := r.node.withMetrics t, stats := stats }.handle m =
      (r.handle m).withMetrics t :=
  r.node.dispatch_withMetrics t r.session m

/-- `settle` counts how a message was handled by its outcome. -/
theorem settle_withMetrics {step : Step Disposition} {m : Message} (length : Nat)
    (h : ∀ e, step.result = .error e → e.isInternal = false) (r : Replay) (t t' : Metrics)
    (nanos : Nat) :
    let o := Outcome.read m length step.result
    let accepted := { r with
      node := r.node.withMetrics t'
      stats := { r.stats with frames := r.stats.frames + 1 } }
    accepted.settle m (step.withMetrics t) nanos =
      { r with
        node := step.node.withMetrics
          ((t.countSent (step.queued.map Queued.message)).settle m step.result nanos)
        stats := r.stats.record o
        state := if o.ends then .disconnected else r.state } := by
  obtain ⟨node, queued, result⟩ := step
  cases result with
  | ok disposition =>
    cases disposition with
    | handled => rfl
    | ignored => rfl
  | error e =>
    have hinternal : e.isInternal = false := h e rfl
    simp only [settle, Step.withMetrics, hinternal]
    -- Of all errors one ends the replay.
    cases e with
    | unknownType id => rfl
    | _ => rfl

namespace IsReading

/-- `play` of a line that holds a frame is `advance`. -/
theorem play_eq_advance (h : r.IsReading) {line : Bytes} (hline : frame? line = .ok (some text))
    (nanos : Nat) : r.play nanos line = r.advance text nanos := by
  obtain ⟨ms, s, hs, -, hopen, -⟩ := h.hasSession
  unfold play
  rw [h.state_eq]
  cases hread : read r.node.limits text with
  | error e =>
    -- The error is about the frame, so it is counted and the replay goes on.
    have hinternal : e.isInternal = false := isInternal_of_read hread
    simp only [accept, hline, hread, hinternal, advance, outcome]
    rfl
  | ok read =>
    obtain ⟨m, length⟩ := read
    obtain ⟨frame, hframe⟩ := exists_decode_of_read hread
    have hinternal : ∀ e, (r.handle m).result = .error e → e.isInternal = false := fun e he =>
      (Node.isRefused_of_dispatch hs hopen hframe he).isInternal_eq
    simp only [accept_of_read hline hread, handle_withMetrics,
      settle_withMetrics length hinternal, advance, outcome, hread, record, Metrics.record,
      sent_read]
    rfl

/-- `play` passes over a line that holds no frame. -/
theorem play_of_none (h : r.IsReading) {line : Bytes} (hline : frame? line = .ok none)
    (nanos : Nat) : r.play nanos line = r := by
  unfold play
  rw [h.state_eq]
  simp only [accept, hline]

end IsReading

/-- `play` does nothing after the end. -/
theorem play_of_disconnected (h : r.state = .disconnected) (nanos : Nat) (line : Bytes) :
    r.play nanos line = r := by
  unfold play
  rw [h]

/-! ## One frame -/

/-- The `outcome` of a frame tells what is in it. -/
theorem decoded_outcome (r : Replay) (text : String) :
    (r.outcome text).decoded = decoded r.node.limits [text] := by
  unfold outcome decoded
  cases hread : read r.node.limits text with
  | error e => simp [Outcome.decoded, hread, Except.toOption]
  | ok read => simp [Outcome.decoded, hread, Except.toOption]

namespace HasSession

variable {ms : List Message}

/-- The `output` of a replay is what is on its way in the replay's session. -/
theorem output_eq (h : r.HasSession ms) :
    r.output = ms.map fun m => Text.Hex.encode m.encode := by
  obtain ⟨s, hs, -, -, rfl⟩ := h
  simp only [output, hs]

/-- A replay has its session as soon as it has begun. -/
theorem start (n : Node) (peer : String) : (start n peer).HasSession [] := by
  have hlast : (Replay.start n peer).node.sessions[(Replay.start n peer).session]? =
      some (.create peer Session.defaultCapacity) := List.getElem?_concat_length
  exact ⟨_, hlast, rfl, rfl, rfl⟩

/-- A replay keeps its session, and what is queued to it about a frame is on its way. -/
theorem record (h : r.HasSession ms) (o : Outcome) (nanos : Nat) :
    (r.record o nanos).HasSession
      (ms ++ messagesTo r.session (r.node.queuedIn (r.events o))) := by
  obtain ⟨s, hs, hpeer, hopen, rfl⟩ := h
  obtain ⟨s', hs', hpeer', hopen', hcontents⟩ :=
    -- Its messages are handled one after the other, and the session stays open.
    Node.contents_run_dispatch hs r.session (o.decoded.map Prod.fst)
  rw [List.map_map] at hs' hcontents
  exact ⟨s', hs', hpeer'.trans hpeer, hopen'.trans hopen, hcontents⟩

/-- The frames that end a replay are those of `EndsReplay`. -/
theorem ends_outcome_iff (h : r.HasSession ms) (text : String) :
    (r.outcome text).ends = true ↔ EndsReplay r.node.limits text := by
  obtain ⟨s, hs, -, hopen, -⟩ := h
  rw [endsReplay_iff]
  unfold outcome
  cases hread : read r.node.limits text with
  | error e => simp [Outcome.ends]
  | ok read =>
    obtain ⟨m, length⟩ := read
    obtain ⟨frame, hframe⟩ := exists_decode_of_read hread
    rw [Outcome.ends_read_iff, handle, Node.exists_unknownType_iff hs hopen hframe]
    simp

end HasSession

end Replay

end ChannelGossip
