import ChannelGossip.Proofs.Node.Dispatch
import ChannelGossip.Proofs.RangeReplies.Answer
import ChannelGossip.Proofs.Store.History

/-! # What a node does about a message

There are few ways in which a node reacts to a message that it does not refuse, and only two of them
are news.  Main statements:

* `Node.Reacts`   the ways in which a node reacts
* `Node.reacts_of_react`, `Node.quiet_or_reacts`   there are no others -/

namespace ChannelGossip

/-! ## Updates and nodes -/

namespace Gossip

variable {chain : ChainHash} {s : Store}

/-- News of a newer update take the announcement along exactly if it is the channel's first. -/
theorem onChannelUpdate_of_newer {u : Recorded ChannelUpdate} {r : ChannelRecord}
    (hchain : u.contents.chainHash = chain)
    (hr : s.channels.find? u.contents.shortChannelId = some r)
    (hnewer : ∀ current ∈ r.newest u.contents.direction,
      current.contents.timestamp < u.contents.timestamp) :
    onChannelUpdate chain s u = {
      store := s.file (.update u)
      relay := some ⟨u.contents.timestamp,
        if r.updates = [] then [r.announcement.message, u.message] else [u.message]⟩ } := by
  have hstale : ((r.newest u.contents.direction).any fun current =>
      u.contents.timestamp ≤ current.contents.timestamp) = false :=
    Store.any_le_eq_false_iff.2 hnewer
  -- Whether it is the first is decided before the update is stored.
  have hfirst : (s.updates u.contents.shortChannelId).isEmpty = true ↔ r.updates = [] := by
    simp only [Store.updates, hr, Option.map_some, Option.getD_some, List.isEmpty_iff]
  rw [Store.file_update_of_newer hr hnewer]
  simp only [onChannelUpdate, if_pos hchain, Store.insertUpdate, hr, hstale, hfirst,
    Bool.false_eq_true, if_false, Table.find?_insert, if_true, Option.toList_some, List.map_cons,
    List.map_nil, ChannelRecord.announcement_withUpdate]
  split
  · rfl
  · rfl

/-- `onChannelUpdate` does nothing about an update that is for another chain, of an unknown channel,
    or not newer. -/
theorem onChannelUpdate_of_not_newer {u : Recorded ChannelUpdate}
    (h : ∀ r, u.contents.chainHash = chain →
      s.channels.find? u.contents.shortChannelId = some r →
      ¬∀ current ∈ r.newest u.contents.direction,
        current.contents.timestamp < u.contents.timestamp) :
    onChannelUpdate chain s u = { store := s } := by
  unfold onChannelUpdate
  -- Three things can keep an update out, and each ends in the same reaction.
  by_cases hchain : u.contents.chainHash = chain
  · rw [if_pos hchain]
    cases hr : s.channels.find? u.contents.shortChannelId with
    | none => simp only [Store.insertUpdate, hr]
    | some r =>
      have hstale : ((r.newest u.contents.direction).any fun current =>
          u.contents.timestamp ≤ current.contents.timestamp) = true := by
        rw [← Bool.not_eq_false]
        exact mt Store.any_le_eq_false_iff.1 (h r hchain hr)
      simp only [Store.insertUpdate, hr, hstale, if_true]
  · rw [if_neg hchain]

variable {n : Recorded NodeAnnouncement} {addresses : List NetAddress}

/-- `onNodeAnnouncement` passes a newer announcement of a node on. -/
theorem onNodeAnnouncement_of_newer (haddresses : n.contents.netAddresses = .ok addresses)
    (hnewer : ∀ current ∈ s.nodes.find? n.contents.nodeId,
      current.contents.timestamp < n.contents.timestamp) :
    onNodeAnnouncement s n = .ok {
      store := s.file (.node n)
      relay := some ⟨n.contents.timestamp, [n.message]⟩ } := by
  have hstale : ((s.nodes.find? n.contents.nodeId).any fun current =>
      n.contents.timestamp ≤ current.contents.timestamp) = false :=
    Store.any_le_eq_false_iff.2 hnewer
  rw [Store.file_node_of_newer hnewer]
  simp only [onNodeAnnouncement, haddresses, bind, Except.bind, Store.insertNode, hstale,
    Bool.false_eq_true, if_false]
  rfl

/-- `onNodeAnnouncement` does nothing about one that is not newer. -/
theorem onNodeAnnouncement_of_not_newer (haddresses : n.contents.netAddresses = .ok addresses)
    (hnewer : ¬∀ current ∈ s.nodes.find? n.contents.nodeId,
      current.contents.timestamp < n.contents.timestamp) :
    onNodeAnnouncement s n = .ok { store := s } := by
  have hstale : ((s.nodes.find? n.contents.nodeId).any fun current =>
      n.contents.timestamp ≤ current.contents.timestamp) = true := by
    rw [← Bool.not_eq_false]
    exact mt Store.any_le_eq_false_iff.1 hnewer
  simp only [onNodeAnnouncement, haddresses, bind, Except.bind, Store.insertNode, hstale, if_true]
  rfl

end Gossip

/-! ## All reactions -/

namespace Node

/-- What a node does about a message that it does not refuse.  Queries are answered, other messages
    are noted or filed, and what the store learns is news unless it announces a channel. -/
inductive Reacts (n : Node) (m : Message) : Reaction → Prop where
  | files (old : n.store.Learns n.config.chain m → m.kind? = some .channelAnnouncement) :
      Reacts n m { store := n.store.fileMessage n.config.chain m }
  | update {u : Recorded ChannelUpdate} {r : ChannelRecord}
      (filing : m.filing? n.config.chain = some (.update u))
      (known : n.store.channels.find? u.contents.shortChannelId = some r)
      (newer : ∀ current ∈ r.newest u.contents.direction,
        current.contents.timestamp < u.contents.timestamp) :
      Reacts n m {
        store := n.store.fileMessage n.config.chain m
        relay := some ⟨u.contents.timestamp,
          if r.updates = [] then [r.announcement.message, m] else [m]⟩ }
  | node {a : Recorded NodeAnnouncement} (filing : m.filing? n.config.chain = some (.node a))
      (newer : ∀ current ∈ n.store.nodes.find? a.contents.nodeId,
        current.contents.timestamp < a.contents.timestamp) :
      Reacts n m {
        store := n.store.fileMessage n.config.chain m
        relay := some ⟨a.contents.timestamp, [m]⟩ }
  | init {i : Init} (contents : m.contents Init = .ok i) :
      Reacts n m { store := n.store, note := some (.init i) }
  | pong (kind : m.kind? = some .pong) : Reacts n m { store := n.store, note := some .pong }
  | ping {p : Ping} (contents : m.contents Ping = .ok p) {answers : List Pong}
      (answers_eq : answers = if n.config.answerPings && p.numPongBytes ≤ n.config.maxPongBytes
        then [p.answer] else []) :
      Reacts n m { store := n.store, replies := answers.map Contents.toMessage }
  | rangeQuery {q : QueryChannelRange} (contents : m.contents QueryChannelRange = .ok q)
      (own : q.chainHash = n.config.chain) {parts : List ReplyChannelRange}
      (parts_eq : q.replies (q.knownIds n.store) n.config.maxReplyIds = .ok parts) :
      Reacts n m { store := n.store, replies := parts.map Contents.toMessage }
  | foreignRangeQuery {q : QueryChannelRange} (contents : m.contents QueryChannelRange = .ok q)
      (foreign : q.chainHash ≠ n.config.chain) :
      Reacts n m {
        store := n.store
        replies := [Contents.toMessage
          (⟨q.chainHash, q.firstBlockNum, q.numberOfBlocks, 0, .plain []⟩ : ReplyChannelRange)] }
  | idQuery {q : QueryShortChannelIds} (contents : m.contents QueryShortChannelIds = .ok q)
      (own : q.chainHash = n.config.chain) {ids : List ShortChannelId}
      (ids_eq : q.ids.ids = .ok ids) :
      Reacts n m {
        store := n.store
        replies := n.store.about [] ids ++
          [Contents.toMessage (ReplyShortChannelIds.create n.config.chain true)] }
  | foreignIdQuery {q : QueryShortChannelIds} (contents : m.contents QueryShortChannelIds = .ok q)
      (foreign : q.chainHash ≠ n.config.chain) :
      Reacts n m {
        store := n.store
        replies := [Contents.toMessage (ReplyShortChannelIds.create q.chainHash false)] }
  | filter {f : GossipTimestampFilter} (contents : m.contents GossipTimestampFilter = .ok f)
      (own : f.chainHash = n.config.chain) :
      Reacts n m { store := n.store, note := some (.filter f), replies := n.store.matching f }

variable {n : Node} {m : Message} {r : Reaction}

/-- `Reacts` allows that nothing comes of a message about which nothing is filed. -/
theorem Reacts.files_of_none (h : m.filing? n.config.chain = none) :
    n.Reacts m { store := n.store } := by
  have hfiles : n.Reacts m { store := n.store.fileMessage n.config.chain m } :=
    .files fun hlearns => by
      obtain ⟨f, hf, -⟩ := Store.learns_iff.1 hlearns
      cases h.symm.trans hf
  rwa [Store.fileMessage_of_none h] at hfiles

/-- `Reacts` allows that nothing comes of a message whose filing is not accepted. -/
theorem Reacts.files_of_not_accepts {f : Filing} (hf : m.filing? n.config.chain = some f)
    (h : ¬n.store.Accepts f) : n.Reacts m { store := n.store } := by
  -- What is not accepted teaches the store nothing, so filing it changes nothing.
  have hold : ¬n.store.Learns n.config.chain m := by
    intro hlearns
    obtain ⟨f', hf', haccepts⟩ := Store.learns_iff.1 hlearns
    obtain rfl := Option.some.inj (hf.symm.trans hf')
    exact h haccepts
  have hfiles : n.Reacts m { store := n.store.fileMessage n.config.chain m } :=
    .files fun hlearns => absurd hlearns hold
  rwa [Store.fileMessage_eq_self hold] at hfiles

/-- `onChannelAnnouncement` is one of the reactions. -/
theorem reacts_channelAnnouncement {a : Recorded ChannelAnnouncement}
    (ha : m.record ChannelAnnouncement = .ok a) :
    n.Reacts m (Gossip.onChannelAnnouncement n.config.chain n.store a) := by
  have hkind : m.kind? = some .channelAnnouncement :=
    Message.kind?_of_contents (Message.record_eq_ok_iff.1 ha).1
  unfold Gossip.onChannelAnnouncement
  split
  · rename_i hchain
    have hfiling := Message.filing?_eq_channel_iff.2 ⟨ha, hchain⟩
    have hfiles : n.Reacts m { store := n.store.fileMessage n.config.chain m } :=
      .files fun _ => hkind
    rwa [Store.fileMessage_of_some hfiling] at hfiles
  · rename_i hchain
    refine .files_of_none ?_
    simp only [Message.filing?, hkind, ha, if_neg hchain]

/-- `onChannelUpdate` is one of the reactions. -/
theorem reacts_channelUpdate {u : Recorded ChannelUpdate} (hu : m.record ChannelUpdate = .ok u) :
    n.Reacts m (Gossip.onChannelUpdate n.config.chain n.store u) := by
  obtain ⟨hcontents, hmessage⟩ := Message.record_eq_ok_iff.1 hu
  have hkind : m.kind? = some .channelUpdate := Message.kind?_of_contents hcontents
  by_cases hchain : u.contents.chainHash = n.config.chain
  · have hfiling := Message.filing?_eq_update_iff.2 ⟨hu, hchain⟩
    -- On the own chain it is news exactly if the store accepts it.
    by_cases haccepts : n.store.Accepts (.update u)
    · obtain ⟨r, hr, hnewer⟩ := haccepts
      rw [Gossip.onChannelUpdate_of_newer hchain hr hnewer, hmessage,
        ← Store.fileMessage_of_some hfiling n.store]
      exact .update hfiling hr hnewer
    · rw [Gossip.onChannelUpdate_of_not_newer fun r _ hr hnewer => haccepts ⟨r, hr, hnewer⟩]
      exact .files_of_not_accepts hfiling haccepts
  · rw [Gossip.onChannelUpdate_of_not_newer fun _ hown => absurd hown hchain]
    refine .files_of_none ?_
    simp only [Message.filing?, hkind, hu, if_neg hchain]

/-- `onNodeAnnouncement` is one of the reactions. -/
theorem reacts_nodeAnnouncement {a : Recorded NodeAnnouncement}
    (ha : m.record NodeAnnouncement = .ok a)
    (h : Gossip.onNodeAnnouncement n.store a = .ok r) : n.Reacts m r := by
  obtain ⟨-, hmessage⟩ := Message.record_eq_ok_iff.1 ha
  -- There is a reaction, so the addresses could be read.
  obtain ⟨addresses, haddresses, -⟩ := Except.bind_eq_ok_iff.1 h
  have hfiling : m.filing? n.config.chain = some (.node a) :=
    Message.filing?_eq_node_iff.2 ⟨ha, addresses, haddresses⟩
  by_cases hnewer : ∀ current ∈ n.store.nodes.find? a.contents.nodeId,
      current.contents.timestamp < a.contents.timestamp
  · rw [Gossip.onNodeAnnouncement_of_newer haddresses hnewer, hmessage,
      ← Store.fileMessage_of_some hfiling n.store] at h
    obtain rfl := Except.ok.inj h
    exact .node hfiling hnewer
  · rw [Gossip.onNodeAnnouncement_of_not_newer haddresses hnewer] at h
    obtain rfl := Except.ok.inj h
    exact .files_of_not_accepts hfiling hnewer

/-- `onQueryChannelRange` is one of the reactions. -/
theorem reacts_queryChannelRange {q : QueryChannelRange}
    (hq : m.contents QueryChannelRange = .ok q)
    (h : Gossip.onQueryChannelRange n.config.chain n.config.maxReplyIds n.store q = .ok r) :
    n.Reacts m r := by
  unfold Gossip.onQueryChannelRange at h
  split at h
  · rename_i hchain
    obtain ⟨parts, hparts, h⟩ := Except.bind_eq_ok_iff.1 h
    obtain rfl := Except.ok.inj h
    exact .rangeQuery hq hchain hparts
  · rename_i hchain
    obtain ⟨reply, hreply, h⟩ := Except.bind_eq_ok_iff.1 h
    obtain rfl := Except.ok.inj h
    obtain rfl := Except.ok.inj hreply
    exact .foreignRangeQuery hq hchain

/-- `onQueryShortChannelIds` is one of the reactions. -/
theorem reacts_queryShortChannelIds {q : QueryShortChannelIds}
    (hq : m.contents QueryShortChannelIds = .ok q)
    (h : Gossip.onQueryShortChannelIds n.config.chain n.store q = .ok r) : n.Reacts m r := by
  unfold Gossip.onQueryShortChannelIds at h
  split at h
  · rename_i hchain
    obtain ⟨ids, hids, h⟩ := Except.bind_eq_ok_iff.1 h
    obtain rfl := Except.ok.inj h
    exact .idQuery hq hchain hids
  · rename_i hchain
    obtain rfl := Except.ok.inj h
    exact .foreignIdQuery hq hchain

/-- `onTimestampFilter` is one of the reactions. -/
theorem reacts_gossipTimestampFilter {f : GossipTimestampFilter}
    (hf : m.contents GossipTimestampFilter = .ok f) :
    n.Reacts m (Gossip.onTimestampFilter n.config.chain n.store f) := by
  unfold Gossip.onTimestampFilter
  split
  · rename_i hchain
    exact .filter hf hchain
  · refine .files_of_none ?_
    simp only [Message.filing?, Message.kind?_of_contents hf]
    rfl

/-- What is done about pings and pongs is one of the reactions. -/
theorem reacts_ping
    (h : (Service.ping n.config.answerPings n.config.maxPongBytes).react n.store m = .ok r) :
    n.Reacts m r := by
  unfold Service.react at h
  by_cases hpong : m.kind? = some .pong
  · simp only [if_pos hpong] at h
    obtain rfl := Except.ok.inj h
    exact .pong hpong
  · simp only [if_neg hpong] at h
    obtain ⟨p, hp, h⟩ := Except.bind_eq_ok_iff.1 h
    split at h
    · rename_i hanswer
      obtain rfl := Except.ok.inj h
      exact .ping hp (if_pos (by simpa using hanswer)).symm
    · rename_i hanswer
      obtain rfl := Except.ok.inj h
      exact .ping hp (if_neg (by simpa using hanswer)).symm

/-- `Gossip.react` is one of the reactions. -/
theorem reacts_gossip
    (h : Gossip.react n.config.chain n.config.maxReplyIds n.store m = .ok r) : n.Reacts m r := by
  unfold Gossip.react at h
  -- One case for each kind of messages that the gossip service does something about.
  split at h
  · obtain ⟨a, ha, h⟩ := Except.bind_eq_ok_iff.1 h
    obtain rfl := Except.ok.inj h
    exact reacts_channelAnnouncement ha
  · obtain ⟨u, hu, h⟩ := Except.bind_eq_ok_iff.1 h
    obtain rfl := Except.ok.inj h
    exact reacts_channelUpdate hu
  · obtain ⟨a, ha, h⟩ := Except.bind_eq_ok_iff.1 h
    exact reacts_nodeAnnouncement ha h
  · obtain ⟨q, hq, h⟩ := Except.bind_eq_ok_iff.1 h
    exact reacts_queryChannelRange hq h
  · obtain ⟨q, hq, h⟩ := Except.bind_eq_ok_iff.1 h
    exact reacts_queryShortChannelIds hq h
  · obtain ⟨f, hf, h⟩ := Except.bind_eq_ok_iff.1 h
    obtain rfl := Except.ok.inj h
    exact reacts_gossipTimestampFilter hf
  · -- Nothing is filed about any other kind of messages.
    rename_i hannouncement hupdate hnode _ _ _
    obtain rfl := Except.ok.inj h
    refine .files_of_none ?_
    unfold Message.filing?
    split
    · rename_i hkind
      exact absurd hkind hannouncement
    · rename_i hkind
      exact absurd hkind hupdate
    · rename_i hkind
      exact absurd hkind hnode
    · rfl

/-- Whatever a service does about a message is one of `Reacts`. -/
theorem reacts_of_react {kind : MessageKind}
    (h : (n.serviceOf kind).react n.store m = .ok r) : n.Reacts m r := by
  cases kind with
  | init =>
    obtain ⟨i, hi, h⟩ := Except.bind_eq_ok_iff.1 h
    obtain rfl := Except.ok.inj h
    exact .init hi
  | ping => exact reacts_ping h
  | pong => exact reacts_ping h
  | _ => exact reacts_gossip h

/-- `dispatch` either leaves no trace or carries out one of `Reacts`. -/
theorem quiet_or_reacts (n : Node) (session : Nat) (m : Message) :
    let step := n.dispatch n.dispatcher session m
    (step.node = n ∧ step.queued = []) ∨
      ∃ r, n.Reacts m r ∧ step.node = (n.apply session r).node ∧
        step.queued = (n.apply session r).queued := by
  cases hkind : m.kind? with
  | none =>
    rw [dispatch_of_unknown session hkind]
    exact .inl ⟨rfl, rfl⟩
  | some kind =>
    cases hreact : (n.serviceOf kind).react n.store m with
    | error e =>
      rw [dispatch_eq_of_error session hkind hreact]
      -- A message that its service refuses leaves no trace either.
      exact .inl ⟨rfl, rfl⟩
    | ok r =>
      rw [dispatch_eq_of_ok session hkind hreact]
      exact .inr ⟨r, reacts_of_react hreact, rfl, rfl⟩

end Node

end ChannelGossip
