import ChannelGossip.Proofs.NetAddress
import ChannelGossip.Proofs.Node.Log
import ChannelGossip.Proofs.Node.Queries
import ChannelGossip.Proofs.Node.Reaction
import ChannelGossip.Proofs.Store.Matching

/-! # Where gossip comes from

A node makes answers of its own but no gossip: whatever it queues of that kind is a message that it
was given, whole, and one that it would file.  Main statements:

* `Node.Reacts.sent_cases`   if the store comes from messages with a property then so does all that
  is sent, but for the answers that the node makes itself
* `Node.gossip_of_queued`   so does all gossip that is queued
* `Node.queued_gossip_given`   it was handled in the run, and is written as the frame that it was
  read from -/

namespace ChannelGossip

namespace Message

/-- `toMessage` makes no gossip of contents of another kind. -/
theorem not_isGossip_toMessage {α : Type} [Contents α] {a : α}
    (h : Contents.kind α ∉ MessageKind.gossip) : ¬(Contents.toMessage a).IsGossip :=
  fun hgossip => h (hgossip.kind_mem (Contents.kind?_toMessage a))

/-- What would be filed about gossip: a channel or an update on the own chain, or a node whose
    addresses can be read up to one of a type that is not known. -/
inductive FiledContents (chain : ChainHash) (m : Message) : Prop where
  | channel {a : ChannelAnnouncement} (contents : m.contents ChannelAnnouncement = .ok a)
      (own : a.chainHash = chain)
  | update {u : ChannelUpdate} (contents : m.contents ChannelUpdate = .ok u)
      (own : u.chainHash = chain)
  | node {a : NodeAnnouncement} {addresses : List NetAddress}
      (contents : m.contents NodeAnnouncement = .ok a)
      (spells : NetAddress.SpellsAll a.addresses.bytes addresses)

/-- What `filing?` gives has `FiledContents`. -/
theorem filedContents_of_filing? {chain : ChainHash} {m : Message} {f : Filing}
    (h : m.filing? chain = some f) : m.FiledContents chain := by
  cases f with
  | channel a =>
    obtain ⟨hrecord, hchain⟩ := filing?_eq_channel_iff.1 h
    exact .channel (record_eq_ok_iff.1 hrecord).1 hchain
  | update u =>
    obtain ⟨hrecord, hchain⟩ := filing?_eq_update_iff.1 h
    exact .update (record_eq_ok_iff.1 hrecord).1 hchain
  | node a =>
    obtain ⟨hrecord, addresses, haddresses⟩ := filing?_eq_node_iff.1 h
    exact .node (record_eq_ok_iff.1 hrecord).1 (NetAddress.readAll_eq_ok_iff.1 haddresses)

end Message

namespace Node

variable {n : Node} {m x : Message} {r : Reaction} {P : Message → Prop}

/-- The messages that a node with the given configuration makes itself: a pong and a part of the
    answer to a range query, neither of them longer than it is set to make them, and the end of the
    answer to a query by id. -/
inductive MakesAnswer (config : Config) : Message → Prop where
  | pong {p : Ping} (numPongBytes_le : p.numPongBytes ≤ config.maxPongBytes) :
      MakesAnswer config (Contents.toMessage p.answer)
  | part {r : ReplyChannelRange} {ids : List ShortChannelId} (ids_eq : r.ids = .plain ids)
      (length_le : ids.length ≤ config.maxReplyIds) : MakesAnswer config (Contents.toMessage r)
  | done (r : ReplyShortChannelIds) : MakesAnswer config (Contents.toMessage r)

/-- The messages of `MakesAnswer` are not gossip. -/
theorem MakesAnswer.not_isGossip {config : Config} (h : MakesAnswer config x) : ¬x.IsGossip := by
  cases h with
  | _ => exact Message.not_isGossip_toMessage (by decide)

/-- If the store and the message come with the property `P`, then whatever a reaction of `Reacts`
    sends has it and would be filed, but for the answers that the node makes itself. -/
theorem Reacts.sent_cases (h : n.Reacts m r) (hstore : n.store.Holds n.config.chain P) (hm : P m)
    (hx : x ∈ r.replies ∨ ∃ news, r.relay = some news ∧ x ∈ news.messages) :
    ((∃ f, x.filing? n.config.chain = some f) ∧ P x) ∨ MakesAnswer n.config x := by
  cases h with
  | files old => simp at hx
  | @update u channel filing known newer =>
    -- News of an update are the update and perhaps the stored announcement.
    have hmem : x = channel.announcement.message ∨ x = m := by
      simp only [List.not_mem_nil, Option.some.injEq, false_or, exists_eq_left'] at hx
      split at hx
      · exact List.mem_pair.1 hx
      · exact .inr (List.mem_singleton.1 hx)
    obtain rfl | rfl := hmem
    · exact .inl (hstore.mem_messages known List.mem_cons_self)
    · exact .inl ⟨⟨_, filing⟩, hm⟩
  | node filing newer =>
    obtain rfl : x = m := by simpa using hx
    exact .inl ⟨⟨_, filing⟩, hm⟩
  | init contents => simp at hx
  | pong kind => simp at hx
  | @ping p contents answers answers_eq =>
    obtain ⟨pong, hpong, rfl⟩ : ∃ pong ∈ answers, Contents.toMessage pong = x := by simpa using hx
    -- A ping is answered only if it asks for no more bytes than a pong may have.
    rw [answers_eq] at hpong
    split at hpong
    · rename_i hanswers
      obtain rfl := List.mem_singleton.1 hpong
      have hle : n.config.answerPings ∧ p.numPongBytes ≤ n.config.maxPongBytes := by
        simpa using hanswers
      exact .inr (.pong hle.2)
    · cases hpong
  | @rangeQuery q contents own parts parts_eq =>
    obtain ⟨part, hpart, rfl⟩ : ∃ part ∈ parts, Contents.toMessage part = x := by simpa using hx
    obtain ⟨rs, hrs, hanswered, hplain⟩ :=
      q.exists_replies n.store n.config.maxReplyIds_pos n.config.maxReplyIds_le
    obtain rfl : rs = parts := Except.ok.inj (hrs.symm.trans parts_eq)
    exact .inr (.part (hplain part hpart) (hanswered.length_le part hpart))
  | foreignRangeQuery contents foreign =>
    obtain rfl : x = _ := by simpa using hx
    exact .inr (.part rfl (Nat.zero_le _))
  | idQuery contents own ids_eq =>
    obtain h | rfl : x ∈ n.store.about [] _ ∨ x = _ := by simpa using hx
    · exact .inl (hstore.mem_about h)
    · exact .inr (.done _)
  | foreignIdQuery contents foreign =>
    obtain rfl : x = _ := by simpa using hx
    exact .inr (.done _)
  | filter contents own => exact .inl (hstore.mem_matching (by simpa using hx))

/-- The same of whatever is queued when a message is handled. -/
theorem queuedBy_cases {session : Nat} {q : Queued} (hstore : n.store.Holds n.config.chain P)
    (hm : P m) (hq : q ∈ n.queuedBy (.dispatch session m)) :
    ((∃ f, q.message.filing? n.config.chain = some f) ∧ P q.message) ∨
      MakesAnswer n.config q.message := by
  rw [queuedBy] at hq
  obtain ⟨-, hqueued⟩ | ⟨r, hreacts, -, hqueued⟩ := n.quiet_or_reacts session m
  · rw [hqueued] at hq
    cases hq
  · rw [hqueued] at hq
    exact hreacts.sent_cases hstore hm (mem_queued_apply hq)

/-- All gossip that is queued has the property `P` and would be filed. -/
theorem gossip_of_queued {session : Nat} {q : Queued} (hstore : n.store.Holds n.config.chain P)
    (hm : P m) (hq : q ∈ n.queuedBy (.dispatch session m)) (hgossip : q.message.IsGossip) :
    (∃ f, q.message.filing? n.config.chain = some f) ∧ P q.message :=
  (queuedBy_cases hstore hm hq).resolve_right fun hanswer => hanswer.not_isGossip hgossip

/-- If by `hread` all messages that are handled in a run were read from frames then all gossip that
    is queued in it was handled before or just now, and was read from the frame that `encode` writes
    for it and from no other.  It is about channels of the node's own chain or about nodes whose
    addresses can be read, up to one of a type that is not known if there is one. -/
theorem queued_gossip_given (config : Config) (past : List Event) (e : Event) (q : Queued)
    (hread : ∀ e' ∈ past ++ [e], ∀ m ∈ e'.message?,
      ∃ (limits : FrameLimits) (frame : Bytes), limits.accept frame = .ok m)
    (hq : q ∈ ((start config).run past).queuedBy e) (hgossip : q.message.IsGossip) :
    (∃ session, .dispatch session q.message ∈ past ++ [e]) ∧
      (∃ limits : FrameLimits, limits.accept q.message.encode = .ok q.message) ∧
      (∀ (limits : FrameLimits) (frame : Bytes), limits.accept frame = .ok q.message →
        frame = q.message.encode) ∧
      q.message.FiledContents config.chain := by
  have hframe : ∀ (limits : FrameLimits) (frame : Bytes), limits.accept frame = .ok q.message →
      frame = q.message.encode := by
    intro limits frame haccept
    obtain ⟨-, hdecode, -⟩ := FrameLimits.accept_eq_ok_iff.1 haccept
    exact (Message.decode_eq_ok_iff.1 hdecode).2.2
  -- The store comes from messages that were handled before.
  have hstore : ((start config).run past).store.Holds ((start config).run past).config.chain
      fun m => ∃ session, .dispatch session m ∈ past ++ [e] := by
    rw [run_config]
    refine holds_run config fun e' he' m hm => ?_
    cases e' with
    | dispatch session m' =>
      obtain rfl := Option.some.inj hm
      exact ⟨session, List.mem_append_left _ he'⟩
    | _ => cases hm
  cases e with
  | dispatch session m =>
    have hm : ∃ session', .dispatch session' m ∈ past ++ [.dispatch session m] :=
      ⟨session, List.mem_append_right _ List.mem_cons_self⟩
    -- Gossip is never made by the node, so it is a message that was given.
    obtain ⟨⟨f, hfiling⟩, session', hgiven⟩ := gossip_of_queued hstore hm hq hgossip
    obtain ⟨limits, frame, haccept⟩ := hread _ hgiven q.message rfl
    obtain rfl := hframe limits frame haccept
    rw [run_config] at hfiling
    exact ⟨⟨session', hgiven⟩, ⟨limits, haccept⟩, hframe,
      Message.filedContents_of_filing? hfiling⟩
  | _ => cases hq

/-- An update that came with bytes of a later protocol version is passed on with them. -/
theorem queued_gossip_given_trailing_bytes :
    let config := Config.ofChain .bitcoin
    let channel := ChannelAnnouncement.blank .bitcoin ⟨5 * 0x10000000000⟩
    let update := (Contents.toMessage (ChannelUpdate.blank channel 1500 0)).withRemainder [9, 9]
    let past : List Event :=
      [.openSession "teller" 8, .openSession "listener" 8,
       .dispatch 1 (Contents.toMessage (⟨.bitcoin, 1000, 1000⟩ : GossipTimestampFilter)),
       .dispatch 0 (Contents.toMessage channel)]
    ⟨1, update⟩ ∈ ((start config).run past).queuedBy (.dispatch 0 update) ∧
      (∃ session, .dispatch session update ∈ past ++ [.dispatch 0 update]) ∧
      update.FiledContents .bitcoin := by
  intro config channel update past
  have hqueued : ⟨1, update⟩ ∈ ((start config).run past).queuedBy (.dispatch 0 update) := by
    decide +kernel
  have hread : ∀ e ∈ past ++ [.dispatch 0 update], ∀ m ∈ e.message?,
      ∃ (limits : FrameLimits) (frame : Bytes), limits.accept frame = .ok m := by
    intro e he m hm
    refine ⟨.default, m.encode, ?_⟩
    simp only [past, List.cons_append, List.nil_append, List.mem_cons, List.not_mem_nil,
      or_false] at he
    obtain rfl | rfl | rfl | rfl | rfl := he
    · cases hm
    · cases hm
    all_goals
      obtain rfl := Option.some.inj hm
      decide +kernel
  obtain ⟨hgiven, -, -, hcontents⟩ := queued_gossip_given config past (.dispatch 0 update)
    ⟨1, update⟩ hread hqueued (by decide +kernel)
  exact ⟨hqueued, hgiven, hcontents⟩

end Node

end ChannelGossip
