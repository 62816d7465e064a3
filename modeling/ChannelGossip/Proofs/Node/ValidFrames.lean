import ChannelGossip.Proofs.Node.Provenance
import ChannelGossip.Proofs.Node.Receive
import ChannelGossip.Proofs.Node.Refusal
import ChannelGossip.Proofs.Node.Sessions

/-! # Everything that a node sends is a valid frame

What a node passes on it has read from a frame that it accepts, and its own answers are bounded by
its settings, so that whatever it queues is read as the same message by every node with default
limits.  Main statements:

* `Node.MakesAnswer.isReadable`   the answers of a node itself
* `Node.isReadable_of_queuedIn`   whatever is queued in a run
* `Node.dispatch_ping`, `Node.dispatch_any_queryChannelRange`   pings and range queries are always
  handled
* `Node.sends_valid_frames`   all of this at any time -/

namespace ChannelGossip

/-- A pong that is no longer than `pongLimit` is readable. -/
theorem Message.isReadable_pong {p : Pong} (h : p.pongBytes.bytes.length ≤ pongLimit) :
    (Contents.toMessage p).IsReadable := by
  refine isReadable_iff.2 ⟨?_, Contents.decode_encode_toMessage fun list hlist => ?_⟩
  · rw [Contents.length_encode_pong, frameLimit]
    rw [pongLimit] at h
    omega
  · simp [Contents.values] at hlist

/-- The pong that answers a ping has as many bytes as the ping asks for, and four more in its
    frame. -/
theorem Ping.length_encode_answer (p : Ping) :
    (Contents.toMessage p.answer).encode.length = p.numPongBytes.toNat + 4 := by
  have hbytes : p.answer.pongBytes.bytes.length = p.numPongBytes.toNat := List.length_replicate
  rw [Contents.length_encode_pong, hbytes, Nat.add_comm]

namespace Node

variable {n : Node} {m : Message} {number : Nat} {s : Session}

/-! ## What is queued -/

/-- The messages of `MakesAnswer` are readable. -/
theorem MakesAnswer.isReadable {config : Config} (h : MakesAnswer config m) : m.IsReadable := by
  -- Each setting of a node is bounded by the limit that makes its answers fit a frame.
  cases h with
  | @pong p numPongBytes_le =>
    refine Message.isReadable_pong ?_
    have hlength : p.answer.pongBytes.bytes.length = p.numPongBytes.toNat := List.length_replicate
    have hmost : p.numPongBytes.toNat ≤ config.maxPongBytes.toNat :=
      UInt16.le_iff_toNat_le.1 numPongBytes_le
    rw [hlength]
    exact hmost.trans config.maxPongBytes_le
  | part ids_eq length_le =>
    exact Message.isReadable_replyChannelRange ids_eq (length_le.trans config.maxReplyIds_le)
  | done r => exact Message.isReadable_replyShortChannelIds r

/-- If all messages that are handled in a run are readable then so are all that are queued. -/
theorem isReadable_of_queuedIn (config : Config) {events : List Event}
    (h : ∀ e ∈ events, ∀ m ∈ e.message?, m.IsReadable) :
    ∀ q ∈ (start config).queuedIn events, q.message.IsReadable := by
  -- The last event queues messages of the store, the one it handles, or answers.
  induction events using List.reverseRecOn with
  | nil => exact List.forall_mem_nil _
  | append_singleton events e ih =>
    have hbefore : ∀ e' ∈ events, ∀ m ∈ e'.message?, m.IsReadable := fun e' he' =>
      h e' (List.mem_append_left _ he')
    intro q hq
    rw [queuedIn_append, queuedIn, queuedIn, List.append_nil] at hq
    obtain hq | hq := List.mem_append.1 hq
    · exact ih hbefore q hq
    · cases e with
      | dispatch session m =>
        have hm : m.IsReadable := h _ (List.mem_append_right _ List.mem_cons_self) m rfl
        -- The store holds nothing but what was handled before.
        have hstore : ((start config).run events).store.Holds
            ((start config).run events).config.chain Message.IsReadable := by
          rw [run_config]
          exact holds_run config hbefore
        obtain ⟨-, hreadable⟩ | hanswer := queuedBy_cases hstore hm hq
        · exact hreadable
        · exact hanswer.isReadable
      | _ => cases hq

/-! ## What is always answered -/

/-- A ping from a session that somebody reads is handled, and answered if the node answers pings and
    may make a pong that long. -/
theorem dispatch_ping {p : Ping} (hs : n.sessions[number]? = some s) (hopen : s.outbox.isOpen)
    (hm : m.contents Ping = .ok p) :
    let step := n.dispatch n.dispatcher number m
    step.result = .ok .handled ∧
      step.queued = if n.config.answerPings ∧ p.numPongBytes ≤ n.config.maxPongBytes
        then [⟨number, Contents.toMessage p.answer⟩] else [] := by
  have hkind : m.kind? = some .ping := Message.kind?_of_contents hm
  have hpong : m.kind? ≠ some .pong := by
    rw [hkind]
    decide
  by_cases hanswers : n.config.answerPings ∧ p.numPongBytes ≤ n.config.maxPongBytes
  · have hreact : (n.serviceOf .ping).react n.store m =
        .ok { store := n.store, replies := [Contents.toMessage p.answer] } := by
      simp [serviceOf, Service.react, hpong, hm, hanswers, bind, Except.bind, pure, Except.pure]
    obtain ⟨hresult, hqueued, -⟩ := dispatch_of_replies hs hopen hkind hreact
    rw [if_pos hanswers]
    exact ⟨hresult, hqueued⟩
  · have hreact : (n.serviceOf .ping).react n.store m =
        .ok { store := n.store, replies := [] } := by
      simp [serviceOf, Service.react, hpong, hm, hanswers, bind, Except.bind, pure, Except.pure]
    obtain ⟨hresult, hqueued, -⟩ := dispatch_of_replies hs hopen hkind hreact
    rw [if_neg hanswers]
    exact ⟨hresult, hqueued⟩

/-- `onQueryChannelRange` never fails, whatever the store holds. -/
theorem exists_onQueryChannelRange (n : Node) (q : QueryChannelRange) :
    ∃ r, Gossip.onQueryChannelRange n.config.chain n.config.maxReplyIds n.store q = .ok r := by
  cases h : Gossip.onQueryChannelRange n.config.chain n.config.maxReplyIds n.store q with
  | ok r => exact ⟨r, rfl⟩
  | error e =>
    exact absurd h
      (Gossip.onQueryChannelRange_ne_error n.config.maxReplyIds_pos n.config.maxReplyIds_le q)

/-- `dispatch` of a range query for any chain from a session that somebody reads succeeds. -/
theorem dispatch_any_queryChannelRange {q : QueryChannelRange} (hs : n.sessions[number]? = some s)
    (hopen : s.outbox.isOpen) (hm : m.contents QueryChannelRange = .ok q) :
    (n.dispatch n.dispatcher number m).result = .ok .handled := by
  have hkind : m.kind? = some .queryChannelRange := Message.kind?_of_contents hm
  obtain ⟨r, hr⟩ := n.exists_onQueryChannelRange q
  have hreact : (n.serviceOf .queryChannelRange).react n.store m = .ok r := by
    show Gossip.react n.config.chain n.config.maxReplyIds n.store m = _
    simp only [Gossip.react, hkind, hm]
    exact hr
  rw [dispatch_eq_of_ok number hkind hreact, result_apply hs hopen r]
  rfl

/-! ## At any time -/

/-- If by `hread` all messages that are handled in a run were read from frames that the node accepts
    then every message that it queues makes by `encode` a frame of at most 65535 bytes, from which
    any node with default limits reads the same message, and nothing else is ever on its way.  At
    the end of the run, which may be any, a ping that is answered gets a pong of exactly four bytes
    more than it asks for, and the answers to range queries can be made. -/
theorem sends_valid_frames (config : Config) (events : List Event)
    (hread : ∀ e ∈ events, ∀ m ∈ e.message?,
      ∃ frame, (FrameLimits.ofConfig config).accept frame = .ok m) :
    let n := (start config).run events
    (∀ q ∈ (start config).queuedIn events, q.message.encode.length ≤ 65535 ∧
      FrameLimits.default.accept q.message.encode = .ok q.message) ∧
    (∀ (number : Nat) (s : Session), n.sessions[number]? = some s →
      (∀ m ∈ s.outbox.contents, ⟨number, m⟩ ∈ (start config).queuedIn events) ∧
      (s.outbox.isOpen → ∀ (m : Message) (p : Ping), m.contents Ping = .ok p →
        let step := n.dispatch n.dispatcher number m
        step.result = .ok .handled ∧
        (step.queued = if config.answerPings ∧ p.numPongBytes ≤ config.maxPongBytes
          then [⟨number, Contents.toMessage p.answer⟩] else []) ∧
        (Contents.toMessage p.answer).encode.length = p.numPongBytes.toNat + 4) ∧
      (s.outbox.isOpen → ∀ (m : Message) (q : QueryChannelRange),
        m.contents QueryChannelRange = .ok q →
        (n.dispatch n.dispatcher number m).result = .ok .handled)) ∧
    ∀ q : QueryChannelRange,
      ∃ r, Gossip.onQueryChannelRange n.config.chain n.config.maxReplyIds n.store q = .ok r := by
  intro n
  have hreadable : ∀ q ∈ (start config).queuedIn events, q.message.IsReadable :=
    isReadable_of_queuedIn config fun e he m hm => by
      obtain ⟨frame, haccept⟩ := hread e he m hm
      exact Message.isReadable_of_accept haccept
  refine ⟨fun q hq => ?_, fun number s hs => ⟨fun m hm => ?_, fun hopen m p hm => ?_,
    fun hopen m q hm => dispatch_any_queryChannelRange hs hopen hm⟩, n.exists_onQueryChannelRange⟩
  · exact ⟨(Message.isReadable_iff.1 (hreadable q hq)).1, hreadable q hq⟩
  · exact mem_messagesTo_iff.1 ((contents_run config events hs).subset hm)
  · obtain ⟨hresult, hqueued⟩ := dispatch_ping hs hopen hm
    rw [run_config] at hqueued
    exact ⟨hresult, hqueued, p.length_encode_answer⟩

/-- The longest pong that may be asked for makes a frame of the greatest length. -/
theorem sends_valid_frames_longest_pong :
    let config := Config.ofChain .bitcoin
    let ping : Ping := ⟨65531, ⟨[], by decide⟩⟩
    let events : List Event := [.openSession "asker" 1, .dispatch 0 (Contents.toMessage ping)]
    let pong := Contents.toMessage ping.answer
    ⟨0, pong⟩ ∈ (start config).queuedIn events ∧ pong.encode.length = 65535 ∧
      FrameLimits.default.accept pong.encode = .ok pong := by
  intro config ping events pong
  have hread : ∀ e ∈ events, ∀ m ∈ e.message?,
      ∃ frame, (FrameLimits.ofConfig config).accept frame = .ok m := by
    intro e he m hm
    simp only [events, List.mem_cons, List.not_mem_nil, or_false] at he
    obtain rfl | rfl := he
    · cases hm
    · obtain rfl := Option.some.inj hm
      exact ⟨(Contents.toMessage ping).encode, by decide +kernel⟩
  -- What the ping is answered with when the session has been opened.
  obtain ⟨-, hsessions, -⟩ := sends_valid_frames config [.openSession "asker" 1] fun e he m hm => by
    obtain rfl := List.mem_singleton.1 he
    cases hm
  obtain ⟨-, hping, -⟩ := hsessions 0 (.create "asker" 1) rfl
  obtain ⟨-, hqueued, hlength⟩ := hping rfl (Contents.toMessage ping) ping
    (Message.contents_toMessage ping)
  have hmem : ⟨0, pong⟩ ∈ (start config).queuedIn events := by
    rw [if_pos ⟨rfl, by decide⟩] at hqueued
    have hlast : ((start config).run [.openSession "asker" 1]).queuedBy
        (.dispatch 0 (Contents.toMessage ping)) = [⟨0, pong⟩] := hqueued
    show ⟨0, pong⟩ ∈ [] ++ (((start config).run [.openSession "asker" 1]).queuedBy _ ++ [])
    rw [hlast]
    exact List.mem_cons_self
  obtain ⟨hvalid, -⟩ := sends_valid_frames config events hread
  exact ⟨hmem, hlength, (hvalid _ hmem).2⟩

end Node

end ChannelGossip
