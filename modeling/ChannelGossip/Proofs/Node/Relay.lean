import ChannelGossip.Proofs.Node.Counting
import ChannelGossip.Proofs.Node.Introduction
import ChannelGossip.Proofs.Store.Keeping

/-! # Who gets the news

An update or a node that is accepted is passed on to the current sessions of all other peers that
want news of its time, as far as there is room, and the first update of a channel takes the
channel's announcement along.  No other session notices anything, and all that is queued is counted.
Main statements:

* `Session.Extends`   what it means that a queue has got longer and nothing else has changed
* `Node.share`   what a session gets of some news
* `Node.PassesOn`, `Node.passesOn_iff`   which messages are passed on, by what came before them
* `Node.extends_relay`   passing news on gives each session its share
* `Node.relays_shares`   what a message from one session does to all sessions and to the counters -/

namespace ChannelGossip

/-! ## Longer queues -/

/-- A session whose queue has got longer by `ms`, and of which nothing else has changed. -/
structure Session.Extends (s : Session) (ms : List Message) (s' : Session) : Prop where
  peer_eq : s'.peer = s.peer
  init_eq : s'.init = s.init
  filter_eq : s'.filter = s.filter
  pongs_eq : s'.pongs = s.pongs
  isOpen_eq : s'.outbox.isOpen = s.outbox.isOpen
  capacity_eq : s'.outbox.capacity = s.outbox.capacity
  taken_eq : s'.outbox.taken = s.outbox.taken
  queue_eq : s'.outbox.queue = s.outbox.queue ++ ms

/-- Nothing was queued. -/
theorem Session.Extends.refl (s : Session) : s.Extends [] s :=
  ⟨rfl, rfl, rfl, rfl, rfl, rfl, rfl, (List.append_nil _).symm⟩

/-- What is `accepted` of an offer makes the queue longer. -/
theorem Session.Extends.of_offer (s : Session) (ms : List Message) :
    s.Extends (s.outbox.accepted ms) { s with outbox := s.outbox.offer ms } :=
  ⟨rfl, rfl, rfl, rfl, rfl, rfl, rfl, rfl⟩

namespace Node

variable {n : Node} {m : Message} {number session : Nat} {s : Session} {news : Relay}

/-! ## Passing news on -/

/-- What a session gets of news from a peer: the first few of the messages, as many as there is room
    for, if it is the current session of another peer, somebody reads it, and it wants news of that
    time. -/
def share (n : Node) (sender : String) (news : Relay) (number : Nat) (s : Session) : List Message :=
  if n.registry.find? s.peer = some number ∧ s.peer ≠ sender ∧ s.outbox.isOpen ∧
      s.wants news.timestamp then news.messages.take s.outbox.room
  else []

/-- The `audience` accepts its share of what is offered, and nobody else has any. -/
theorem share_eq (hown : n.HasOwnSessions) (hs : n.sessions[number]? = some s) (sender : String) :
    n.share sender news number s =
      if number ∈ n.audience sender news.timestamp then s.outbox.accepted news.messages
      else [] := by
  have haudience : number ∈ n.audience sender news.timestamp ↔
      n.registry.find? s.peer = some number ∧ s.peer ≠ sender ∧ s.wants news.timestamp := by
    rw [mem_audience_iff]
    constructor
    · rintro ⟨peer, t, hfind, hpeer, ht, hwants⟩
      obtain rfl : t = s := Option.some.inj (ht.symm.trans hs)
      obtain ⟨t', ht', rfl⟩ := hown peer number hfind
      obtain rfl : t' = t := Option.some.inj (ht'.symm.trans ht)
      exact ⟨hfind, hpeer, hwants⟩
    · rintro ⟨hfind, hpeer, hwants⟩
      exact ⟨s.peer, s, hfind, hpeer, hs, hwants⟩
  rw [share, Outbox.accepted]
  by_cases hmem : number ∈ n.audience sender news.timestamp
  · obtain ⟨hfind, hpeer, hwants⟩ := haudience.1 hmem
    by_cases hopen : s.outbox.isOpen
    · rw [if_pos ⟨hfind, hpeer, hopen, hwants⟩, if_pos hmem, if_pos hopen]
    · rw [if_neg fun h => hopen h.2.2.1, if_pos hmem, if_neg hopen]
  · rw [if_neg fun h => hmem (haudience.2 ⟨h.1, h.2.1, h.2.2.2⟩), if_neg hmem]

/-- Offering messages to some sessions, by `hnodup` none of them twice, changes these and no
    other. -/
private theorem getElem?_foldl_offer (ms : List Message) {audience : List Nat}
    (hnodup : audience.Nodup) (step : Step Unit)
    (hs : step.node.sessions[number]? = some s) :
    let last := audience.foldl (fun step number =>
      let next := step.node.offer number ms
      (⟨next.node, step.queued ++ next.queued, .ok ()⟩ : Step Unit)) step
    last.node.sessions[number]? =
      some (if number ∈ audience then { s with outbox := s.outbox.offer ms } else s) := by
  induction audience generalizing step s with
  | nil => exact hs
  | cons first audience ih =>
    obtain ⟨hnotin, hnodup⟩ := List.nodup_cons.1 hnodup
    have hrest := fun {t : Session} => @ih t hnodup
      ⟨(step.node.offer first ms).node, step.queued ++ (step.node.offer first ms).queued, .ok ()⟩
    rw [List.foldl_cons]
    by_cases hfirst : first = number
    · -- The session does not get its turn again.
      subst hfirst
      refine (hrest (getElem?_offer_self hs ms)).trans ?_
      rw [if_neg hnotin, if_pos List.mem_cons_self]
    · refine (hrest ((getElem?_offer_of_ne hfirst step.node ms).trans hs)).trans ?_
      simp only [List.mem_cons, Ne.symm hfirst, false_or]

/-- `relay` gives every session its `share`. -/
theorem extends_relay (hown : n.HasOwnSessions) (hs : n.sessions[number]? = some s)
    (sender : String) (news : Relay) :
    ∃ s', (n.relay sender news).node.sessions[number]? = some s' ∧
      s.Extends (n.share sender news number s) s' := by
  have hnodup := nodup_audience hown sender news.timestamp
  refine ⟨_, getElem?_foldl_offer news.messages hnodup _ hs, ?_⟩
  rw [share_eq hown hs]
  -- Whoever is in the audience has its share, and it is nothing for all others.
  split
  · exact .of_offer s news.messages
  · exact .refl s

/-- `relay` queues news to sessions that there are. -/
theorem exists_session_of_mem_relay {sender : String} {q : Queued}
    (h : q ∈ (n.relay sender news).queued) : ∃ t, n.sessions[q.session]? = some t := by
  have hmem : q.message ∈ messagesTo q.session (n.relay sender news).queued :=
    mem_messagesTo_iff.2 h
  rw [queued_relay] at hmem
  by_cases haudience : q.session ∈ n.audience sender news.timestamp
  · obtain ⟨-, t, -, -, ht, -⟩ := mem_audience_iff.1 haudience
    exact ⟨t, ht⟩
  · rw [messagesTo_offerAll_of_notMem haudience] at hmem
    cases hmem

/-! ## Messages that make no news -/

/-- `send` to one session leaves all others as they are. -/
theorem getElem?_send_of_ne (h : number ≠ session) (n : Node) (ms : List Message) :
    (n.send number ms).node.sessions[session]? = n.sessions[session]? := by
  unfold send
  split
  · rfl
  · split
    · rfl
    · exact (List.getElem?_modify ..).trans (by simp [h])

/-- A message without `news?` is noted for its session and replied to, if it is not refused. -/
theorem dispatch_of_no_news (h : n.news? m = none) (session : Nat) :
    let step := n.dispatch n.dispatcher session m
    (step.node = n ∧ step.queued = []) ∨
      ∃ r, step.node = ((n.noted session r).send session r.replies).node ∧
        step.queued = ((n.noted session r).send session r.replies).queued := by
  intro step
  cases hkind : m.kind? with
  | none =>
    left
    simp only [step, dispatch_of_unknown session hkind, and_self]
  | some kind =>
    cases hreact : (n.serviceOf kind).react n.store m with
    | error e =>
      left
      simp only [step, dispatch_eq_of_error session hkind hreact, and_self]
    | ok r =>
      have hrelay : r.relay = none := by
        simpa only [news?, hkind, hreact] using h
      right
      refine ⟨r, ?_⟩
      simp only [step, dispatch_eq_of_ok session hkind hreact, apply_of_no_relay n session hrelay,
        and_self]

/-- A message without `news?` changes no session but the one that it came from. -/
theorem getElem?_dispatch_of_no_news (h : n.news? m = none) (hne : session ≠ number) :
    (n.dispatch n.dispatcher session m).node.sessions[number]? = n.sessions[number]? := by
  obtain ⟨hnode, -⟩ | ⟨r, hnode, -⟩ := dispatch_of_no_news h session
  · rw [hnode]
  · rw [hnode, getElem?_send_of_ne hne]
    exact (List.getElem?_modify ..).trans (by simp [hne])

/-- All that `dispatch` queues is queued to sessions that there are. -/
theorem session_lt_of_mem_dispatch (hs : n.sessions[session]? = some s) {q : Queued}
    (h : q ∈ (n.dispatch n.dispatcher session m).queued) : q.session < n.sessions.length := by
  cases hnews : n.news? m with
  | some news =>
    rw [dispatch_of_news? hs hnews] at h
    obtain ⟨t, ht⟩ := exists_session_of_mem_relay h
    exact (List.getElem?_eq_some_iff.1 ht).1
  | none =>
    obtain ⟨-, hqueued⟩ | ⟨r, -, hqueued⟩ := dispatch_of_no_news hnews session
    · rw [hqueued] at h
      cases h
    · rw [hqueued] at h
      rw [session_of_mem_send h]
      exact (List.getElem?_eq_some_iff.1 hs).1

/-! ## What came before -/

/-- An update of a channel was accepted in a run. -/
def HadUpdate (config : Config) (past : List Event) (id : ShortChannelId) : Prop :=
  ∃ before session m u after, past = before ++ .dispatch session m :: after ∧
    m.filing? config.chain = some (.update u) ∧
    (((start config).run before).store.insertUpdate u).2 = .accepted ∧
    u.contents.shortChannelId = id

/-- News of a message after a run: an update that the store accepts, with the channel's announcement
    if not `HadUpdate`, or the announcement of a node that it accepts. -/
inductive PassesOn (config : Config) (past : List Event) (m : Message) : Relay → Prop where
  | firstUpdate {u : Recorded ChannelUpdate} {r : ChannelRecord}
      (filing : m.filing? config.chain = some (.update u))
      (accepted : (((start config).run past).store.insertUpdate u).2 = .accepted)
      (known : ((start config).run past).store.channels.find? u.contents.shortChannelId = some r)
      (first : ¬HadUpdate config past u.contents.shortChannelId) :
      PassesOn config past m ⟨u.contents.timestamp, [r.announcement.message, m]⟩
  | laterUpdate {u : Recorded ChannelUpdate}
      (filing : m.filing? config.chain = some (.update u))
      (accepted : (((start config).run past).store.insertUpdate u).2 = .accepted)
      (later : HadUpdate config past u.contents.shortChannelId) :
      PassesOn config past m ⟨u.contents.timestamp, [m]⟩
  | node {a : Recorded NodeAnnouncement}
      (filing : m.filing? config.chain = some (.node a))
      (accepted : (((start config).run past).store.insertNode a).2 = .accepted) :
      PassesOn config past m ⟨a.contents.timestamp, [m]⟩

end Node

namespace Store

variable {s : Store}

/-- `insertUpdate` accepts what the store `Accepts`: an update of a known channel that is newer than
    the one stored for its direction. -/
theorem insertUpdate_eq_accepted_iff {u : Recorded ChannelUpdate} :
    (s.insertUpdate u).2 = .accepted ↔ s.Accepts (.update u) := by
  cases hr : s.channels.find? u.contents.shortChannelId with
  | none => simp [insertUpdate, Accepts, hr]
  | some r =>
    simp only [insertUpdate, Accepts, hr, Option.some.injEq, exists_eq_left', ← any_le_eq_false_iff]
    split
    · rename_i hstale
      simp [hstale]
    · rename_i hstale
      simpa using hstale

/-- `insertNode` accepts what the store `Accepts`: the announcement of a node that is newer than the
    one stored of it. -/
theorem insertNode_eq_accepted_iff {a : Recorded NodeAnnouncement} :
    (s.insertNode a).2 = .accepted ↔ s.Accepts (.node a) := by
  simp only [insertNode, Accepts, ← any_le_eq_false_iff]
  split
  · rename_i hstale
    simp [hstale]
  · rename_i hstale
    simpa using hstale

/-- Once an update is accepted, its channel has `updates`. -/
theorem updates_file_ne_nil {u : Recorded ChannelUpdate} (h : s.Accepts (.update u)) :
    (s.file (.update u)).updates u.contents.shortChannelId ≠ [] := by
  obtain ⟨r, hr, hnewer⟩ := h
  rw [file_update_of_newer hr hnewer, updates, Table.find?_insert, if_pos rfl, Option.map_some,
    Option.getD_some, ne_eq, ChannelRecord.updates_eq_nil_iff]
  intro hnil
  have hnone := hnil u.contents.direction
  rw [ChannelRecord.newest_withUpdate, if_pos rfl] at hnone
  cases hnone

end Store

namespace Node

variable {config : Config} {past : List Event} {m : Message} {news : Relay} {id : ShortChannelId}

/-- A channel that has `updates` keeps having some in a run. -/
theorem updates_run_ne_nil {n : Node} (h : n.store.updates id ≠ []) (events : List Event) :
    (n.run events).store.updates id ≠ [] := by
  induction events generalizing n with
  | nil => exact h
  | cons e events ih =>
    refine ih ?_
    rw [after_store]
    cases e with
    | dispatch session m => exact Store.updates_fileMessage_ne_nil h n.config.chain m
    | _ => exact h

/-- The stored `updates` of a channel tell whether any was accepted. -/
theorem hadUpdate_iff :
    HadUpdate config past id ↔ ((start config).run past).store.updates id ≠ [] := by
  constructor
  · rintro ⟨before, session, m, u, after, rfl, hfiling, haccepted, rfl⟩
    rw [run_append, run_cons]
    refine updates_run_ne_nil ?_ after
    rw [after_store, run_config]
    show (((start config).run before).store.fileMessage config.chain m).updates _ ≠ []
    rw [Store.fileMessage_of_some hfiling]
    exact Store.updates_file_ne_nil (Store.insertUpdate_eq_accepted_iff.1 haccepted)
  · -- Updates are there, so that at some time the first of them came in.
    intro h
    obtain ⟨before, session, m, after, u, rfl, hfirst, rfl⟩ := exists_firstUpdate config h
    obtain ⟨r, hr, -⟩ := hfirst.exists_channel
    exact ⟨before, session, m, u, after, rfl, hfirst.filing?_eq,
      Store.insertUpdate_eq_accepted_iff.2 ⟨r, hr, hfirst.newer hr⟩, rfl⟩

/-- What a node `PassesOn` is what makes news. -/
theorem passesOn_iff :
    PassesOn config past m news ↔ ((start config).run past).news? m = some news := by
  have hconfig : ((start config).run past).config = config := run_config _ past
  -- Whether an update is the first shows in the record of its channel.
  have hhad : ∀ {u : Recorded ChannelUpdate} {r : ChannelRecord},
      ((start config).run past).store.channels.find? u.contents.shortChannelId = some r →
      (HadUpdate config past u.contents.shortChannelId ↔ r.updates ≠ []) := by
    intro u r hr
    rw [hadUpdate_iff, Store.updates, hr]
    rfl
  constructor
  · intro h
    cases h with
    | firstUpdate filing accepted known first =>
      obtain ⟨r, hr, hnewer⟩ := Store.insertUpdate_eq_accepted_iff.1 accepted
      obtain rfl := Option.some.inj (hr.symm.trans known)
      rw [news?_of_update (hconfig.symm ▸ filing) hr hnewer,
        if_pos (not_not.1 (mt (hhad hr).2 first))]
    | laterUpdate filing accepted later =>
      obtain ⟨r, hr, hnewer⟩ := Store.insertUpdate_eq_accepted_iff.1 accepted
      rw [news?_of_update (hconfig.symm ▸ filing) hr hnewer, if_neg ((hhad hr).1 later)]
    | node filing accepted =>
      exact news?_of_node (hconfig.symm ▸ filing) (Store.insertNode_eq_accepted_iff.1 accepted)
  · intro h
    obtain ⟨f, hf, haccepts, -⟩ := exists_filing_of_news? h
    cases f with
    | channel a =>
      -- The announcement of a channel makes no news.
      obtain ⟨f, hf', -, htime, -⟩ := exists_filing_of_news? h
      obtain rfl := Option.some.inj (hf'.symm.trans hf)
      cases htime
    | update u =>
      obtain ⟨r, hr, hnewer⟩ := id haccepts
      rw [news?_of_update hf hr hnewer, Option.some.injEq] at h
      rw [hconfig] at hf
      have haccepted := Store.insertUpdate_eq_accepted_iff.2 haccepts
      by_cases hfirst : r.updates = []
      · rw [if_pos hfirst] at h
        exact h ▸ .firstUpdate hf haccepted hr fun hhadUpdate => (hhad hr).1 hhadUpdate hfirst
      · rw [if_neg hfirst] at h
        exact h ▸ .laterUpdate hf haccepted ((hhad hr).2 hfirst)
    | node a =>
      rw [news?_of_node hf haccepts, Option.some.injEq] at h
      rw [hconfig] at hf
      exact h ▸ .node hf (Store.insertNode_eq_accepted_iff.2 haccepts)

/-- A message that the node `PassesOn` gives every session its `share` of the news, the session that
    it came from among those that have none, and does nothing else to any of them.  Any other
    message changes no session but the one that it came from.  What is queued to all sessions
    together is counted by name. -/
theorem relays_shares (config : Config) (past : List Event) (number : Nat) (p : Session)
    (m : Message) (hp : ((start config).run past).sessions[number]? = some p) :
    let n := (start config).run past
    let step := n.dispatch n.dispatcher number m
    (∀ news, PassesOn config past m news → ∀ (k : Nat) (s : Session), n.sessions[k]? = some s →
      ∃ s', step.node.sessions[k]? = some s' ∧ s.Extends (n.share p.peer news k s) s') ∧
    ((∀ news, ¬PassesOn config past m news) →
      ∀ k, k ≠ number → step.node.sessions[k]? = n.sessions[k]?) ∧
    step.node.sessions.length = n.sessions.length ∧
    (∀ (k : Nat) (s : Session), n.sessions[k]? = some s → ∃ s', step.node.sessions[k]? = some s' ∧
      s'.outbox.contents = s.outbox.contents ++ messagesTo k step.queued) ∧
    (∀ q ∈ step.queued, q.session < n.sessions.length) ∧
    ∀ labels, (step.node.metrics.counter .messagesOut).get labels =
      (n.metrics.counter .messagesOut).get labels +
        .ofNat (step.queued.countP fun q => labels = [("type", q.message.name)]) := by
  intro n step
  have hown : n.HasOwnSessions := hasOwnSessions_run config past
  refine ⟨fun news hnews k s hs => ?_, fun hquiet k hk => ?_, (n.dispatch_frame number m).2.2.2,
    fun k s hs => contents_dispatch hs number m, fun q hq => session_lt_of_mem_dispatch hp hq,
    fun labels => ?_⟩
  · have hdispatch := dispatch_of_news? (n := n) hp (passesOn_iff.1 hnews)
    show ∃ s', (n.dispatch n.dispatcher number m).node.sessions[k]? = some s' ∧ _
    rw [hdispatch]
    -- Filing the message touches neither the sessions nor the registry.
    exact extends_relay (n := { n with store := n.store.fileMessage n.config.chain m }) hown hs
      p.peer news
  · have hnone : n.news? m = none := by
      cases hnews : n.news? m with
      | none => rfl
      | some news => exact absurd (passesOn_iff.2 hnews) (hquiet news)
    exact getElem?_dispatch_of_no_news hnone (Ne.symm hk)
  · have hmetrics : step.node.metrics = n.metrics.countSent (step.queued.map Queued.message) :=
      n.metrics_dispatch number m
    rw [hmetrics, Metrics.get_countSent, List.countP_map]
    rfl

/-- A listener with room for one message gets the announcement of a channel, and its first update is
    dropped. -/
theorem relays_shares_little_room :
    let config := Config.ofChain .bitcoin
    let channel := ChannelAnnouncement.blank .bitcoin ⟨5 * 0x10000000000⟩
    let update := ChannelUpdate.blank channel 1500 0
    let past : List Event :=
      [.openSession "teller" 8, .openSession "listener" 1, .openSession "stranger" 8,
       .dispatch 1 (Contents.toMessage (⟨.bitcoin, 1000, 1000⟩ : GossipTimestampFilter)),
       .dispatch 0 (Contents.toMessage channel)]
    let n := (start config).run past
    let step := n.dispatch n.dispatcher 0 (Contents.toMessage update)
    (∃ s s' : Session, n.sessions[1]? = some s ∧ step.node.sessions[1]? = some s' ∧
      s.Extends [Contents.toMessage channel] s') ∧
    (step.node.metrics.counter .messagesOut).get [("type", "channel_announcement")] =
      (n.metrics.counter .messagesOut).get [("type", "channel_announcement")] + 1 := by
  intro config channel update past
  have hteller : (((start config).run past).sessions[0]?.map Session.peer) = some "teller" := by
    decide +kernel
  obtain ⟨p, hp, hpeer⟩ := Option.map_eq_some_iff.1 hteller
  have hpasses : PassesOn config past (Contents.toMessage update)
      ⟨1500, [Contents.toMessage channel, Contents.toMessage update]⟩ :=
    passesOn_iff.2 (by decide +kernel)
  have hlistener : (((start config).run past).sessions[1]?.map (((start config).run past).share
      "teller" ⟨1500, [Contents.toMessage channel, Contents.toMessage update]⟩ 1)) =
        some [Contents.toMessage channel] := by
    decide +kernel
  obtain ⟨s, hs, hshare⟩ := Option.map_eq_some_iff.1 hlistener
  have hcount : (((start config).run past).dispatch ((start config).run past).dispatcher 0
      (Contents.toMessage update)).queued.countP (fun q =>
        [("type", "channel_announcement")] = [("type", q.message.name)]) = 1 := by
    decide +kernel
  obtain ⟨hnews, -, -, -, -, hcounted⟩ :=
    relays_shares config past 0 p (Contents.toMessage update) hp
  obtain ⟨s', hs', hextends⟩ := hnews _ hpasses 1 s hs
  rw [hpeer, hshare] at hextends
  have hgrown := hcounted [("type", "channel_announcement")]
  rw [hcount] at hgrown
  exact ⟨⟨s, s', hs, hs', hextends⟩, hgrown⟩

end Node

end ChannelGossip
