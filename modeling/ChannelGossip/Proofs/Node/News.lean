import ChannelGossip.Proofs.Node.Sessions

/-! # News

A node passes on what its store learns about times: updates and nodes.  News are queued and nothing
else is when it does.  Main statements:

* `Node.news?`   the news in reaction to a message
* `Node.news?_of_update`, `Node.news?_of_node`, `Node.exists_filing_of_news?`   which messages make
  news, and which news
* `Node.dispatch_of_news?`, `Node.queuedBy_of_news?`   what is done then, and what is queued
* `Node.relayedIn`   all news that are queued in a run -/

namespace ChannelGossip.Node

variable {n : Node} {m : Message} {news : Relay} {session : Nat} {s : Session}

/-- The news that a node passes on in reaction to a message. -/
def news? (n : Node) (m : Message) : Option Relay :=
  match m.kind? with
  | none => none
  | some kind =>
    match (n.serviceOf kind).react n.store m with
    | .ok r => r.relay
    | .error _ => none

/-- `news?` is part of the reaction of the service in charge. -/
theorem news?_eq_some_iff : n.news? m = some news ↔ ∃ kind r, m.kind? = some kind ∧
    (n.serviceOf kind).react n.store m = .ok r ∧ r.relay = some news := by
  unfold news?
  cases hkind : m.kind? with
  | none => simp
  | some kind =>
    cases hreact : (n.serviceOf kind).react n.store m with
    | error e => simp [hreact]
    | ok r => simp [hreact]

/-! ## Which messages make news -/

/-- A newer update of a known channel is news, together with the announcement of the channel if it
    is the first. -/
theorem news?_of_update {u : Recorded ChannelUpdate} {r : ChannelRecord}
    (hf : m.filing? n.config.chain = some (.update u))
    (hr : n.store.channels.find? u.contents.shortChannelId = some r)
    (hnewer : ∀ current ∈ r.newest u.contents.direction,
      current.contents.timestamp < u.contents.timestamp) :
    n.news? m = some ⟨u.contents.timestamp,
      if r.updates = [] then [r.announcement.message, m] else [m]⟩ := by
  obtain ⟨hrecord, hchain⟩ := Message.filing?_eq_update_iff.1 hf
  have hkind : m.kind? = some .channelUpdate := Message.kind?_of_filing? hf
  have hmessage : u.message = m := Message.message_of_filing? hf
  refine news?_eq_some_iff.2
    ⟨.channelUpdate, Gossip.onChannelUpdate n.config.chain n.store u, hkind, ?_, ?_⟩
  · show Gossip.react n.config.chain n.config.maxReplyIds n.store m = _
    simp only [Gossip.react, hkind, hrecord]
    rfl
  · -- What goes out is the message itself, which is stored next to its contents.
    rw [Gossip.onChannelUpdate_of_newer hchain hr hnewer, hmessage]

/-- A newer announcement of a node is news. -/
theorem news?_of_node {a : Recorded NodeAnnouncement}
    (hf : m.filing? n.config.chain = some (.node a))
    (hnewer : ∀ current ∈ n.store.nodes.find? a.contents.nodeId,
      current.contents.timestamp < a.contents.timestamp) :
    n.news? m = some ⟨a.contents.timestamp, [m]⟩ := by
  obtain ⟨hrecord, addresses, haddresses⟩ := Message.filing?_eq_node_iff.1 hf
  have hkind : m.kind? = some .nodeAnnouncement := Message.kind?_of_filing? hf
  have hmessage : a.message = m := Message.message_of_filing? hf
  have hreact : (n.serviceOf .nodeAnnouncement).react n.store m =
      Gossip.onNodeAnnouncement n.store a := by
    show Gossip.react n.config.chain n.config.maxReplyIds n.store m = _
    simp only [Gossip.react, hkind, hrecord]
    rfl
  rw [Gossip.onNodeAnnouncement_of_newer haddresses hnewer, hmessage] at hreact
  exact news?_eq_some_iff.2 ⟨.nodeAnnouncement, _, hkind, hreact, rfl⟩

/-- An update or the announcement of a node that the store `Accepts` is news of its time. -/
theorem exists_news {f : Filing} {timestamp : UInt32} (hf : m.filing? n.config.chain = some f)
    (haccepts : n.store.Accepts f) (htime : f.timestamp? = some timestamp) :
    ∃ news, n.news? m = some news ∧ news.timestamp = timestamp ∧ m ∈ news.messages := by
  cases f with
  | channel a => cases htime
  | update u =>
    obtain ⟨r, hr, hnewer⟩ := haccepts
    refine ⟨_, news?_of_update hf hr hnewer, Option.some.inj htime, ?_⟩
    -- The message is the last of the news, behind the announcement if there is one.
    split
    · exact List.mem_cons_of_mem _ List.mem_cons_self
    · exact List.mem_cons_self
  | node a =>
    exact ⟨_, news?_of_node hf haccepts, Option.some.inj htime, List.mem_cons_self⟩

/-- News are of an update or a node that the store `Accepts`, and of the channel if the update is
    its first. -/
theorem exists_filing_of_news? (h : n.news? m = some news) :
    ∃ f, m.filing? n.config.chain = some f ∧ n.store.Accepts f ∧
      f.timestamp? = some news.timestamp ∧
      (news.messages = [m] ∨ ∃ u r, f = .update u ∧
        n.store.channels.find? u.contents.shortChannelId = some r ∧ r.updates = [] ∧
        news.messages = [r.announcement.message, m]) := by
  obtain ⟨kind, r, -, hreact, hrelay⟩ := news?_eq_some_iff.1 h
  -- Of all reactions only these two are news.
  cases reacts_of_react hreact with
  | @update u channel filing known newer =>
    obtain rfl := Option.some.inj hrelay
    refine ⟨_, filing, ⟨channel, known, newer⟩, rfl, ?_⟩
    by_cases hfirst : channel.updates = []
    · exact .inr ⟨u, channel, rfl, known, hfirst, if_pos hfirst⟩
    · exact .inl (if_neg hfirst)
  | node filing newer =>
    obtain rfl := Option.some.inj hrelay
    exact ⟨_, filing, newer, rfl, .inl rfl⟩
  | _ => cases hrelay

/-- News are of two messages at most. -/
theorem length_messages_le (h : n.news? m = some news) : news.messages.length ≤ 2 := by
  obtain ⟨f, -, -, -, hmessages | ⟨u, r, -, -, -, hmessages⟩⟩ := exists_filing_of_news? h
  · simp [hmessages]
  · simp [hmessages]

/-! ## What is queued -/

/-- `dispatch` of a message that makes news files it and passes the news on by `relay`. -/
theorem dispatch_of_news? (hs : n.sessions[session]? = some s) (h : n.news? m = some news) :
    let filed : Node := { n with store := n.store.fileMessage n.config.chain m }
    let relayed := filed.relay s.peer news
    n.dispatch n.dispatcher session m = ⟨relayed.node, relayed.queued, .ok .handled⟩ := by
  obtain ⟨kind, r, hkind, hreact, hrelay⟩ := news?_eq_some_iff.1 h
  simp only [dispatch_eq_of_ok session hkind hreact]
  cases reacts_of_react hreact with
  | update filing known newer => rw [apply_of_relay hs rfl rfl hrelay]; rfl
  | node filing newer => rw [apply_of_relay hs rfl rfl hrelay]; rfl
  | _ => cases hrelay

/-- News are queued to the `audience`, and nothing else is queued. -/
theorem queuedBy_of_news? (hs : n.sessions[session]? = some s) (h : n.news? m = some news) :
    n.queuedBy (.dispatch session m) =
      { n with store := n.store.fileMessage n.config.chain m }.offerAll news.messages
        (n.audience s.peer news.timestamp) := by
  rw [queuedBy, dispatch_of_news? hs h]
  exact queued_relay _ _ _

/-- Each session gets the first few of the news, if any. -/
theorem messagesTo_queuedBy_of_news? (hown : n.HasOwnSessions) (h : n.news? m = some news)
    (session target : Nat) :
    messagesTo target (n.queuedBy (.dispatch session m)) <+: news.messages := by
  cases hs : n.sessions[session]? with
  | none =>
    -- Without a session that they come from, news reach nobody.
    obtain ⟨kind, r, hkind, hreact, -⟩ := news?_eq_some_iff.1 h
    simp only [queuedBy, dispatch_eq_of_ok session hkind hreact, queued_apply_of_none hs]
    exact List.nil_prefix
  | some s =>
    rw [queuedBy_of_news? hs h]
    exact messagesTo_offerAll_of_nodup _ _ _ (nodup_audience hown _ _)

/-- The news that are queued when something happens. -/
def relayedBy (n : Node) : Event → List Queued
  | .dispatch session m => if (n.news? m).isSome then n.queuedBy (.dispatch session m) else []
  | _ => []

/-- All news that are queued in a run of events. -/
def relayedIn (n : Node) : List Event → List Queued
  | [] => []
  | e :: events => n.relayedBy e ++ (n.after e).relayedIn events

/-- A run passes on what its parts pass on. -/
theorem relayedIn_append (n : Node) (events events' : List Event) :
    n.relayedIn (events ++ events') = n.relayedIn events ++ (n.run events).relayedIn events' := by
  induction events generalizing n with
  | nil => rfl
  | cons e events ih =>
    rw [List.cons_append, relayedIn, relayedIn, run_cons, ih, List.append_assoc]

end ChannelGossip.Node
