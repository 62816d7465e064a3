import Mathlib.Tactic.Abel
import ChannelGossip.Proofs.Replay.Run

/-! # The accounts of a replay

The report of a replay and the metrics of the node tell the same: each frame is counted once in the
report, and what is counted of it there is counted of it in the metrics.  Main statements:

* `Metrics.grown`, `Metrics.grownAt`, `Metrics.observedAt`   what metrics have grown by
* `Report.Accounts`   a report and metrics that tell the same
* `Report.Accounts.record`   one more frame
* `Replay.accounts_for_frames`   every replay of a peer that has the node to itself -/

namespace ChannelGossip

/-! ## Growth -/

namespace Metrics

variable {before t : Metrics} {name : CounterName} {labels : Labels}

/-- By how much a counter has grown, for all labels together. -/
def grown (before after : Metrics) (name : CounterName) : UInt64 :=
  (after.counter name).total - (before.counter name).total

/-- By how much a counter has grown at the given labels. -/
def grownAt (before after : Metrics) (name : CounterName) (labels : Labels) : UInt64 :=
  (after.counter name).get labels - (before.counter name).get labels

/-- How many durations have been observed at the given labels. -/
def observedAt (before after : Metrics) (labels : Labels) : UInt64 :=
  after.durations.count labels - before.durations.count labels

theorem grown_self : before.grown before name = 0 := sub_self _

theorem grownAt_self : before.grownAt before name labels = 0 := sub_self _

theorem observedAt_self : before.observedAt before labels = 0 := sub_self _

/-- A counter has `grown` by what is added to it. -/
theorem grown_add (other : CounterName) (amount : UInt64) :
    before.grown (t.add name labels amount) other =
      before.grown t other + if other = name then amount else 0 := by
  rw [grown, grown, counter_add]
  split
  · rename_i hname
    rw [hname, Counter.total_add]
    -- Growth is a difference of numbers that start again from zero, so this is arithmetic in the
    -- ring.
    exact add_sub_right_comm _ _ _
  · exact (add_zero _).symm

/-- A counter has grown at the labels for which something is added to it; labels are the same in any
    order. -/
theorem grownAt_add (other : CounterName) (labels' : Labels) (amount : UInt64) :
    before.grownAt (t.add name labels amount) other labels' =
      before.grownAt t other labels' +
        if other = name ∧ labels.sorted = labels'.sorted then amount else 0 := by
  rw [grownAt, grownAt, counter_add]
  by_cases hname : other = name
  · rw [if_pos hname, hname, Counter.get_add]
    split
    · rename_i hlabels
      rw [if_pos ⟨rfl, hlabels⟩]
      exact add_sub_right_comm _ _ _
    · rename_i hlabels
      rw [if_neg (mt And.right hlabels)]
      exact (add_zero _).symm
  · rw [if_neg hname, if_neg (mt And.left hname)]
    exact (add_zero _).symm

/-- Adding to a counter is no observation. -/
theorem observedAt_add (amount : UInt64) (labels' : Labels) :
    before.observedAt (t.add name labels amount) labels' = before.observedAt t labels' := by
  cases name <;> rfl

/-- An observation counts at its own labels only. -/
theorem observedAt_observe (nanos : Nat) (labels' : Labels) :
    before.observedAt (t.observe labels nanos) labels' =
      before.observedAt t labels' + if labels.sorted = labels'.sorted then 1 else 0 := by
  have hcount := t.durations.count_observe labels labels' nanos
  rw [observedAt, observedAt, observe, hcount]
  split
  · exact add_sub_right_comm _ _ _
  · exact (add_zero _).symm

/-- An observation makes no counter grow. -/
theorem grown_observe (nanos : Nat) :
    before.grown (t.observe labels nanos) name = before.grown t name := by
  cases name <;> rfl

theorem grownAt_observe (nanos : Nat) (labels' : Labels) :
    before.grownAt (t.observe labels nanos) name labels' = before.grownAt t name labels' := by
  cases name <;> rfl

/-- By `countSent` the counter of queued messages grows by as many as are queued, and no other
    counter does. -/
theorem grown_countSent (ms : List Message) :
    before.grown (t.countSent ms) name =
      before.grown t name + if name = .messagesOut then .ofNat ms.length else 0 := by
  split
  · rename_i hname
    subst hname
    have htotal := t.total_countSent ms
    rw [grown, grown]
    simp only [counter] at htotal ⊢
    rw [htotal]
    exact add_sub_right_comm _ _ _
  · rename_i hname
    rw [grown, grown, counter_countSent hname]
    exact (add_zero _).symm

theorem grownAt_countSent (hname : name ≠ .messagesOut) (ms : List Message) :
    before.grownAt (t.countSent ms) name labels = before.grownAt t name labels := by
  rw [grownAt, grownAt, counter_countSent hname]

theorem observedAt_countSent (ms : List Message) :
    before.observedAt (t.countSent ms) labels = before.observedAt t labels := by
  rw [observedAt, observedAt, durations_countSent]

end Metrics

/-! ## One frame -/

namespace Replay

/-- By how much a frame makes a counter grow, with the number of messages that are sent about it. -/
def Outcome.growth (sent : Nat) : Outcome → CounterName → UInt64
  | .unread _, .decodeErrors => 1
  | .read .., .messagesIn => 1
  | .read _ length _, .inboundBytes => .ofNat length
  | .read .., .messagesOut => .ofNat sent
  | .read _ _ (.ok .ignored), .ignored => 1
  | .read _ _ (.error _), .serviceErrors => 1
  | _, _ => 0

/-- The number of the messages that are counted under the given labels. -/
def countAt (labels : Labels) (frames : List (Message × Nat)) : Nat :=
  frames.countP fun frame => labels = [("type", frame.1.name)]

/-- The summed lengths of the frames whose messages are counted under the given labels. -/
def bytesAt (labels : Labels) (frames : List (Message × Nat)) : Nat :=
  ((frames.filter fun frame => labels = [("type", frame.1.name)]).map Prod.snd).sum

@[simp] theorem countAt_nil (labels : Labels) : countAt labels [] = 0 := rfl

@[simp] theorem bytesAt_nil (labels : Labels) : bytesAt labels [] = 0 := rfl

theorem ofNat_countAt_singleton (labels : Labels) (m : Message) (length : Nat) :
    UInt64.ofNat (countAt labels [(m, length)]) = if labels = [("type", m.name)] then 1 else 0 := by
  by_cases h : labels = [("type", m.name)]
  · simp [countAt, h]
  · simp [countAt, h]

theorem ofNat_bytesAt_singleton (labels : Labels) (m : Message) (length : Nat) :
    UInt64.ofNat (bytesAt labels [(m, length)]) =
      if labels = [("type", m.name)] then .ofNat length else 0 := by
  by_cases h : labels = [("type", m.name)]
  · simp [bytesAt, h]
  · simp [bytesAt, h]

theorem bytesAt_append (labels : Labels) (frames frames' : List (Message × Nat)) :
    bytesAt labels (frames ++ frames') = bytesAt labels frames + bytesAt labels frames' := by
  simp [bytesAt]

end Replay

namespace Metrics

variable {before t : Metrics} {name : CounterName} {labels : Labels}

/-- The growth of a counter over a frame is that of `Outcome.growth`. -/
theorem grown_record (o : Replay.Outcome) (sent : List Message) (nanos : Nat) :
    before.grown (t.record o sent nanos) name =
      before.grown t name + o.growth sent.length name := by
  -- Four outcomes and six counters, each a sum of what was added.
  rcases o with code | ⟨m, length, e | _ | _⟩ <;> cases name <;>
    simp [record, settle, arrive, increment, grown_add, grown_observe, grown_countSent,
      Replay.Outcome.growth]

/-- The growth of the counter of messages over a frame, label by label, is what `countAt` counts. -/
theorem messagesIn_record (o : Replay.Outcome) (sent : List Message) (nanos : Nat) :
    before.grownAt (t.record o sent nanos) .messagesIn labels =
      before.grownAt t .messagesIn labels + .ofNat (Replay.countAt labels o.decoded) := by
  rcases o with code | ⟨m, length, e | _ | _⟩ <;>
    simp [record, settle, arrive, increment, grownAt_add, grownAt_observe, grownAt_countSent,
      Labels.sorted_singleton_eq_iff, Replay.Outcome.decoded, Replay.ofNat_countAt_singleton]

/-- The growth of the counter of bytes over a frame, label by label, is what `bytesAt` adds up. -/
theorem inboundBytes_record (o : Replay.Outcome) (sent : List Message) (nanos : Nat) :
    before.grownAt (t.record o sent nanos) .inboundBytes labels =
      before.grownAt t .inboundBytes labels + .ofNat (Replay.bytesAt labels o.decoded) := by
  rcases o with code | ⟨m, length, e | _ | _⟩ <;>
    simp [record, settle, arrive, increment, grownAt_add, grownAt_observe, grownAt_countSent,
      Labels.sorted_singleton_eq_iff, Replay.Outcome.decoded, Replay.ofNat_bytesAt_singleton]

/-- The durations observed over a frame, label by label, are what `countAt` counts. -/
theorem observedAt_record (o : Replay.Outcome) (sent : List Message) (nanos : Nat) :
    before.observedAt (t.record o sent nanos) labels =
      before.observedAt t labels + .ofNat (Replay.countAt labels o.decoded) := by
  rcases o with code | ⟨m, length, e | _ | _⟩ <;>
    simp [record, settle, arrive, increment, observedAt_add, observedAt_observe,
      observedAt_countSent, Labels.sorted_singleton_eq_iff, Replay.Outcome.decoded,
      Replay.ofNat_countAt_singleton]

end Metrics

/-! ## Accounts -/

namespace Replay

variable {r : Replay} {n : Node} {peer text : String} {limits : FrameLimits}
  {frames lines : List String} {report : Report} {before t : Metrics} {o : Outcome}
  {sent : List Message}

/-- A report on `frames` and the growth of metrics tell the same: every frame is handled, ignored or
    rejected, rejected frames are counted as errors, those that could be read are counted with their
    lengths and timed under their labels, and as many replies are put out as are counted. -/
structure Report.Accounts (report : Report) (limits : FrameLimits) (frames : List String)
    (before after : Metrics) : Prop where
  length_eq : report.stats.frames = frames.length
  frames_eq :
    report.stats.frames = report.stats.handled + report.stats.ignored + report.stats.rejected
  rejected_eq : .ofNat report.stats.rejected =
    before.grown after .decodeErrors + before.grown after .serviceErrors
  messagesIn_eq : .ofNat report.stats.frames - before.grown after .decodeErrors =
    before.grown after .messagesIn
  durations_eq : ∀ labels, before.grownAt after .messagesIn labels = before.observedAt after labels
  ignored_eq : before.grown after .ignored = .ofNat report.stats.ignored
  inboundBytes_eq : ∀ labels,
    before.grownAt after .inboundBytes labels = .ofNat (bytesAt labels (decoded limits frames))
  replies_eq : report.stats.replies = report.output.length
  messagesOut_eq : .ofNat report.stats.replies = before.grown after .messagesOut

namespace Report.Accounts

/-- `Accounts` of no frames. -/
theorem nil (limits : FrameLimits) (t : Metrics) : Accounts ⟨{}, []⟩ limits [] t t where
  length_eq := rfl
  frames_eq := rfl
  rejected_eq := by simp [Metrics.grown_self]
  messagesIn_eq := by simp [Metrics.grown_self]
  durations_eq := by simp [Metrics.grownAt_self, Metrics.observedAt_self]
  ignored_eq := by simp [Metrics.grown_self]
  inboundBytes_eq := by simp [Metrics.grownAt_self, decoded]
  replies_eq := rfl
  messagesOut_eq := by simp [Metrics.grown_self]

/-- A frame makes the report and the metrics grow alike, if by `hlines` as many lines are put out as
    messages are counted. -/
theorem record (h : report.Accounts limits frames before t)
    (hdecoded : decoded limits [text] = o.decoded)
    (hlines : .ofNat lines.length = o.growth sent.length .messagesOut) (nanos : Nat) :
    let output := report.output ++ lines
    Accounts ⟨{ report.stats.record o with replies := output.length }, output⟩ limits
      (frames ++ [text]) before (t.record o sent nanos) := by
  intro output
  have hframes : (report.stats.record o).frames = report.stats.frames + 1 := by
    rcases o with code | ⟨m, length, e | _ | _⟩ <;> rfl
  -- The numbers are compared case by case, those under labels by what is in the frame.
  exact {
    length_eq := by simp [hframes, h.length_eq]
    frames_eq := by
      have hbefore := h.frames_eq
      rcases o with code | ⟨m, length, e | _ | _⟩ <;> simp only [ReplayStats.record] <;> omega
    rejected_eq := by
      have hbefore := h.rejected_eq
      rcases o with code | ⟨m, length, e | _ | _⟩ <;>
        simp [ReplayStats.record, Metrics.grown_record, Outcome.growth, hbefore] <;> abel
    messagesIn_eq := by
      have hbefore := h.messagesIn_eq
      rcases o with code | ⟨m, length, e | _ | _⟩ <;>
        simp [hframes, Metrics.grown_record, Outcome.growth, ← hbefore] <;> abel
    durations_eq := by
      intro labels
      rw [Metrics.messagesIn_record, Metrics.observedAt_record, h.durations_eq]
    ignored_eq := by
      have hbefore := h.ignored_eq
      rcases o with code | ⟨m, length, e | _ | _⟩ <;>
        simp [ReplayStats.record, Metrics.grown_record, Outcome.growth, hbefore]
    inboundBytes_eq := by
      intro labels
      rw [Metrics.inboundBytes_record, h.inboundBytes_eq, decoded_append, bytesAt_append, hdecoded,
        UInt64.ofNat_add]
    replies_eq := rfl
    messagesOut_eq := by
      rw [Metrics.grown_record, ← h.messagesOut_eq, ← hlines, h.replies_eq, List.length_append,
        UInt64.ofNat_add] }

end Report.Accounts

/-! ## Replays of peers that have the node to themselves -/

/-- `record` leaves the registry as it is. -/
theorem registry_record (r : Replay) (o : Outcome) (nanos : Nat) :
    (r.record o nanos).node.registry = r.node.registry := by
  cases o with
  | unread code => rfl
  | read m length result => exact (r.node.dispatch_frame r.session m).2.2.1

/-- If by `halone` no other peer has a current session then all that is sent about a frame goes to
    the session of the replay. -/
theorem messagesTo_session {ms : List Message} (h : r.HasSession ms)
    (halone : ∀ p k, r.node.registry.find? p = some k → p = r.peer) (o : Outcome) :
    messagesTo r.session (r.node.queuedIn (r.events o)) = r.sent o := by
  obtain ⟨s, hs, hpeer, -, -⟩ := h
  cases o with
  | unread code => rfl
  | read m length result =>
    have hqueued : r.node.queuedIn (r.events (.read m length result)) = (r.handle m).queued :=
      List.append_nil _
    rw [sent_read, hqueued]
    exact Node.messagesTo_dispatch_of_alone hs (by rwa [hpeer]) m

/-- What is sent about a frame is added to the output, and its outcome to the report. -/
theorem reportSoFar_record {ms : List Message} (h : r.HasSession ms)
    (halone : ∀ p k, r.node.registry.find? p = some k → p = r.peer) (o : Outcome) (nanos : Nat) :
    let output := r.output ++ (r.sent o).map fun m => Text.Hex.encode m.encode
    (r.record o nanos).reportSoFar =
      ⟨{ r.reportSoFar.stats.record o with replies := output.length }, output⟩ := by
  intro output
  have houtput : (r.record o nanos).output = output := by
    rw [(h.record o nanos).output_eq, messagesTo_session h halone, List.map_append, ← h.output_eq]
  rw [reportSoFar, houtput]
  rcases o with code | ⟨m, length, e | _ | _⟩ <;> rfl

/-- A replay that has played `frames` of a peer that has the node to itself, and accounts for
    them. -/
structure HasAccounts (n : Node) (peer : String) (frames : List String) (r : Replay) : Prop where
  plays : Plays n peer frames r
  alone : ∀ p k, r.node.registry.find? p = some k → p = r.peer
  accounts : r.reportSoFar.Accounts n.limits frames n.metrics r.node.metrics

/-- A replay has `HasAccounts` of nothing when it begins. -/
theorem HasAccounts.start (halone : ∀ p k, n.registry.find? p = some k → p = peer) :
    HasAccounts n peer [] (start n peer) where
  plays := .start n peer
  alone := by
    intro p k hfind
    -- The only current session that the replay adds is its own.
    have hinsert : (n.registry.insert peer n.nextSession).find? p = some k := hfind
    rw [Table.find?_insert] at hinsert
    split at hinsert
    · rename_i hpeer
      exact hpeer.symm
    · exact halone p k hinsert
  accounts := by
    have houtput : (Replay.start n peer).output = [] := (HasSession.start n peer).output_eq
    have hreport : (Replay.start n peer).reportSoFar = ⟨{}, []⟩ := by
      rw [reportSoFar, houtput]
      rfl
    rw [hreport]
    exact .nil n.limits n.metrics

/-- `advance` keeps `HasAccounts`. -/
theorem HasAccounts.advance (h : HasAccounts n peer frames r) (text : String) (nanos : Nat) :
    HasAccounts n peer (frames ++ [text]) (r.advance text nanos) where
  plays := h.plays.advance text nanos
  alone := by
    rw [Replay.advance, registry_record]
    exact h.alone
  accounts := by
    have hdecoded : decoded n.limits [text] = (r.outcome text).decoded := by
      rw [decoded_outcome, h.plays.limits_eq]
    -- The output grows by one line for each message that is sent.
    have hlines : .ofNat ((r.sent (r.outcome text)).map fun m => Text.Hex.encode m.encode).length =
        (r.outcome text).growth (r.sent (r.outcome text)).length .messagesOut := by
      rw [List.length_map]
      cases r.outcome text <;> rfl
    rw [Replay.advance, reportSoFar_record h.plays.hasSession h.alone]
    exact h.accounts.record hdecoded hlines nanos

/-- If by `halone` no other peer has a current session, a replay accounts for every frame that it
    plays: its report and what the metrics of the node have grown by tell the same, as
    `Report.Accounts` says, also if a frame ends it early. -/
theorem accounts_for_frames (n : Node) (peer : String) (nanos : Nat → Nat) {input : Bytes}
    (halone : ∀ p k, n.registry.find? p = some k → p = peer)
    (hinput : Text.Utf8.decode input = .ok text) :
    let r := run n peer nanos input
    ∃ report, r.report = .ok report ∧
      report.Accounts n.limits (cutFrames n.limits text) n.metrics r.finish.metrics := by
  intro r
  -- Frame by frame, with what has been played as part of the invariant.
  have h : HasAccounts n peer (cutFrames n.limits text) r :=
    run_induct n peer nanos hinput (.start halone) fun _ _ text nanos h => h.advance text nanos
  exact ⟨r.reportSoFar, report_eq_ok h.plays.state_ne, h.accounts⟩

/-- An odd type outside the catalogue, a frame that is not hexadecimal, and an even type, which ends
    the replay. -/
theorem accounts_for_unknown_types :
    let n := Node.start (.ofChain .bitcoin)
    let r := run n "peer" (fun _ => 0)
      [48, 48, 48, 49, 10, 122, 122, 10, 48, 48, 48, 50, 10, 48, 48, 48, 51]
    ∃ report, r.report = .ok report ∧
      report.Accounts n.limits ["0001", "zz", "0002"] n.metrics r.finish.metrics := by
  intro n r
  have hframes : cutFrames n.limits "0001\nzz\n0002\n0003" = ["0001", "zz", "0002"] := by
    decide +kernel
  rw [← hframes]
  exact accounts_for_frames n "peer" (fun _ => 0) (by intro p k h; cases h) (by decide +kernel)

end Replay

end ChannelGossip
