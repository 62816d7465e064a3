import Mathlib.Data.List.Infix
import ChannelGossip.Proofs.Node.News
import ChannelGossip.Proofs.Store.Keeping

/-! # What a peer that sets a filter gets

A session that sets a filter gets what is stored and matches it, and from then on whatever matches
and is accepted from other peers, unless there is no room for it.  So it misses nothing that is
stored but what came from sessions of its own peer.  Main statements:

* `Node.messagesTo_queuedBy_of_filterFor?`   what is stored
* `Node.queued_or_drops_of_accepts`   what is accepted later
* `Node.filter_misses_nothing`   both, for everything that is stored after a run -/

namespace ChannelGossip.Node

variable {n : Node} {m : Message} {f : GossipTimestampFilter} {g : Filing} {timestamp : UInt32}
  {session target : Nat} {s : Session}

/-- Two sessions are of different peers. -/
def AreOfDifferentPeers (n : Node) (a b : Nat) : Prop :=
  ∃ s t, n.sessions[a]? = some s ∧ n.sessions[b]? = some t ∧ s.peer ≠ t.peer

/-- The news that `m` from `session` makes are for `target`, which has no room for all of them. -/
def Drops (n : Node) (session : Nat) (m : Message) (target : Nat) : Prop :=
  ∃ sender s news, n.sessions[session]? = some sender ∧ n.sessions[target]? = some s ∧
    n.news? m = some news ∧ target ∈ n.audience sender.peer news.timestamp ∧
    s.outbox.room < news.messages.length

/-- News tell of two messages at most, so that they are dropped only where there is room for one at
    most. -/
theorem Drops.exists_room_le (h : n.Drops session m target) :
    ∃ s, n.sessions[target]? = some s ∧ s.outbox.room ≤ 1 := by
  obtain ⟨sender, s, news, -, hs, hnews, -, hroom⟩ := h
  have hlength := length_messages_le hnews
  exact ⟨s, hs, by omega⟩

/-! ## One message -/

/-- A session that sets the filter `f` gets all that is stored and matches it. -/
theorem messagesTo_queuedBy_of_filterFor? (hs : n.sessions[target]? = some s)
    (hopen : s.outbox.isOpen) (hfilter : m.filterFor? n.config.chain = some f) :
    messagesTo target (n.queuedBy (.dispatch target m)) = n.store.matching f := by
  obtain ⟨hcontents, -⟩ := Message.filterFor?_eq_some_iff.1 hfilter
  have hkind : m.kind? = some .gossipTimestampFilter := Message.kind?_of_contents hcontents
  simp only [queuedBy, dispatch_eq_of_ok target hkind (react_of_filterFor? hfilter)]
  rw [apply_of_no_relay n target rfl]
  have hnoted := getElem?_noted hs target
    { store := n.store, note := some (.filter f), replies := n.store.matching f }
  rw [if_pos rfl] at hnoted
  rw [(send_of_isOpen hnoted hopen _).2, messagesTo_map_self]

/-- If the store accepts the filing of `m` from another peer, a current session that wants its time
    gets `m`, unless the news are dropped. -/
theorem queued_or_drops_of_accepts (hs : n.sessions[target]? = some s) (hopen : s.outbox.isOpen)
    (hfind : n.registry.find? s.peer = some target) (hwants : s.wants timestamp)
    (hg : m.filing? n.config.chain = some g) (haccepts : n.store.Accepts g)
    (htime : g.timestamp? = some timestamp) (hpeers : n.AreOfDifferentPeers session target) :
    m ∈ messagesTo target (n.queuedBy (.dispatch session m)) ∨ n.Drops session m target := by
  obtain ⟨sender, t, hsender, ht, hne⟩ := hpeers
  obtain rfl : s = t := Option.some.inj (hs.symm.trans ht)
  obtain ⟨news, hnews, rfl, hm⟩ := exists_news hg haccepts htime
  have haudience : target ∈ n.audience sender.peer news.timestamp :=
    mem_audience_iff.2 ⟨s.peer, s, hfind, Ne.symm hne, hs, hwants⟩
  -- With room for all of the news, the message is among what is queued.
  by_cases hroom : news.messages.length ≤ s.outbox.room
  · left
    rw [queuedBy_of_news? hsender hnews]
    refine mem_messagesTo_offerAll haudience hs hopen ?_
    rwa [List.take_of_length_le hroom]
  · exact .inr ⟨sender, s, news, hsender, hs, hnews, haudience, Nat.lt_of_not_le hroom⟩

/-! ## Runs -/

/-- Everything that is stored after a run was stored before it, or was accepted in it. -/
theorem exists_accepted_of_keeps {events : List Event} (h : (n.run events).store.Keeps g) :
    n.store.Keeps g ∨ ∃ past session rest, events = past ++ .dispatch session g.message :: rest ∧
      g.message.filing? n.config.chain = some g ∧ (n.run past).store.Accepts g := by
  -- The last event leaves what was stored, and adds at most what it accepts.
  induction events using List.reverseRecOn with
  | nil => exact .inl h
  | append_singleton events e ih =>
    have hbefore : (n.run events).store.Keeps g → n.store.Keeps g ∨ ∃ past session rest,
        events ++ [e] = past ++ .dispatch session g.message :: rest ∧
          g.message.filing? n.config.chain = some g ∧ (n.run past).store.Accepts g := by
      intro hkept
      obtain hkept | ⟨past, session, rest, rfl, haccepted⟩ := ih hkept
      · exact .inl hkept
      · exact .inr ⟨past, session, rest ++ [e], by rw [List.append_assoc]; rfl, haccepted⟩
    rw [run_append, run_cons, run_nil, after_store, run_config] at h
    cases e with
    | dispatch session m =>
      obtain hkept | ⟨hfiling, haccepts⟩ := Store.Keeps.of_fileMessage h
      · exact hbefore hkept
      · -- The last message is the one that brought it.
        obtain rfl : g.message = m := Message.message_of_filing? hfiling
        exact .inr ⟨events, session, [], rfl, hfiling, haccepts⟩
    | _ => exact hbefore h

/-- After `before` the session `target` sets by `m` the filter `f` for the node's chain and in
    `after` no other.  From then on it is the current session of its peer, and it has a reader
    throughout. -/
structure Subscribes (config : Config) (before : List Event) (target : Nat) (m : Message)
    (f : GossipTimestampFilter) (after : List Event) : Prop where
  filter : m.filterFor? config.chain = some f
  last : ∀ m', .dispatch target m' ∈ after → m'.filterFor? config.chain = none
  registered : ∀ past, past <+: after →
    ((start config).run (before ++ .dispatch target m :: past)).IsRegistered target
  read : .hangUp target ∉ before ++ .dispatch target m :: after

namespace Subscribes

variable {config : Config} {before after : List Event}

/-- `Subscribes` up to any event. -/
theorem of_isPrefix (h : Subscribes config before target m f after) {past : List Event}
    (hpast : past <+: after) : Subscribes config before target m f past where
  filter := h.filter
  last m' hm' := h.last m' (hpast.subset hm')
  registered past' hpast' := h.registered past' (hpast'.trans hpast)
  read hmem := by
    refine h.read ?_
    obtain hmem | hmem := List.mem_append.1 hmem
    · exact List.mem_append_left _ hmem
    · obtain ⟨rest, rfl⟩ := hpast
      rw [← List.cons_append, ← List.append_assoc]
      exact List.mem_append_left _ (List.mem_append_right _ hmem)

/-- The session is there when it sets the filter, and it has a reader. -/
theorem exists_session (h : Subscribes config before target m f after) :
    ∃ s, ((start config).run before).sessions[target]? = some s ∧ s.outbox.isOpen := by
  obtain ⟨s', hs', -⟩ := h.registered [] (List.nil_prefix)
  rw [run_append, run_cons, run_nil, Node.after] at hs'
  have hlt : target < ((start config).run before).sessions.length := by
    rw [← (((start config).run before).dispatch_frame target m).2.2.2]
    exact (List.getElem?_eq_some_iff.1 hs').1
  have hs := List.getElem?_eq_getElem hlt
  exact ⟨_, hs, isOpen_run config (fun hmem => h.read (List.mem_append_left _ hmem)) hs⟩

/-- In the end it has a reader, is the current session of its peer, and its filter is `f`. -/
theorem exists_session_after (h : Subscribes config before target m f after) :
    ∃ s, ((start config).run (before ++ .dispatch target m :: after)).sessions[target]? = some s ∧
      s.outbox.isOpen ∧
      ((start config).run (before ++ .dispatch target m :: after)).registry.find? s.peer =
        some target ∧
      s.filter = some f := by
  obtain ⟨s₀, hs₀, -⟩ := h.exists_session
  obtain ⟨s, hs, hfind⟩ := h.registered after (List.prefix_refl after)
  refine ⟨s, hs, isOpen_run config h.read hs, hfind, ?_⟩
  -- No later event sets another filter.
  obtain ⟨s', hs', -, -, hfilter⟩ := exists_getElem?_run hs₀ (.dispatch target m :: after)
  rw [← run_append] at hs'
  obtain rfl := Option.some.inj (hs'.symm.trans hs)
  rw [run_config] at hfilter
  have hset : (Event.dispatch target m).filterFor? config.chain target = some f := by
    rw [Event.filterFor?, if_pos rfl, h.filter]
  have hnone : after.filterMap (·.filterFor? config.chain target) = [] := by
    rw [List.filterMap_eq_nil_iff]
    intro e he
    cases e with
    | dispatch session m' =>
      rw [Event.filterFor?]
      split
      · rename_i hsession
        subst hsession
        exact h.last m' he
      · rfl
    | _ => rfl
  have hlast : ((Event.dispatch target m :: after).filterMap
      (·.filterFor? config.chain target)).getLast? = some f := by
    rw [List.filterMap_cons_some hset, hnone, List.getLast?_singleton]
  exact hfilter.trans (by rw [show (start config).config = config from rfl, hlast, Option.some_or])

/-- What is stored when the session sets the filter is queued to it then. -/
theorem queued_of_keeps (h : Subscribes config before target m f after)
    (hkept : ((start config).run before).store.Keeps g) (htime : g.timestamp? = some timestamp)
    (hmatches : f.matches timestamp) :
    g.message ∈ messagesTo target
      (((start config).run before).queuedIn (.dispatch target m :: after)) := by
  obtain ⟨s, hs, hopen⟩ := h.exists_session
  have hfilter : m.filterFor? ((start config).run before).config.chain = some f := by
    rw [run_config]
    exact h.filter
  rw [queuedIn, messagesTo_append, messagesTo_queuedBy_of_filterFor? hs hopen hfilter]
  exact List.mem_append_left _ (hkept.mem_matching htime hmatches)

/-- What is accepted after that from another peer is queued to the session, unless it `Drops`. -/
theorem queued_or_drops {past rest : List Event}
    (h : Subscribes config before target m f (past ++ .dispatch session g.message :: rest))
    (hfiling : g.message.filing? config.chain = some g)
    (haccepts : ((start config).run (before ++ .dispatch target m :: past)).store.Accepts g)
    (htime : g.timestamp? = some timestamp) (hmatches : f.matches timestamp)
    (hpeers : ((start config).run (before ++ .dispatch target m :: past)).AreOfDifferentPeers
      session target) :
    g.message ∈ messagesTo target (((start config).run before).queuedIn
        (.dispatch target m :: (past ++ .dispatch session g.message :: rest))) ∨
      ((start config).run (before ++ .dispatch target m :: past)).Drops session g.message
        target := by
  obtain ⟨s, hs, hopen, hfind, hfilter⟩ :=
    (h.of_isPrefix (List.prefix_append past _)).exists_session_after
  have hwants : s.wants timestamp := by
    rw [Session.wants, hfilter]
    exact hmatches
  have hfiling' : g.message.filing?
      ((start config).run (before ++ .dispatch target m :: past)).config.chain = some g := by
    rw [run_config]
    exact hfiling
  refine (queued_or_drops_of_accepts hs hopen hfind hwants hfiling' haccepts htime hpeers).imp_left
    fun hmem => ?_
  rw [← List.cons_append, queuedIn_append, messagesTo_append, ← run_append]
  refine List.mem_append_right _ ?_
  rw [queuedIn, messagesTo_append]
  exact List.mem_append_left _ hmem

end Subscribes

/-- Let a session set a filter for the node's chain and after that no other, be the current session
    of its peer from then on, and have a reader, as `Subscribes` says.  Then every update and every
    announcement of a node that is stored and matches the filter has been queued to the session when
    it set the filter or later, with two exceptions: it was accepted after that from a session of no
    other peer, or there was no room for it when it was passed on. -/
theorem filter_misses_nothing (config : Config) (before after : List Event) (target : Nat)
    (m : Message) (f : GossipTimestampFilter) (g : Filing) (timestamp : UInt32)
    (h : Subscribes config before target m f after)
    (hkept : ((start config).run (before ++ .dispatch target m :: after)).store.Keeps g)
    (htime : g.timestamp? = some timestamp) (hmatches : f.matches timestamp) :
    g.message ∈
        messagesTo target (((start config).run before).queuedIn (.dispatch target m :: after)) ∨
      ¬((start config).run before).store.Keeps g ∧ ∃ past session rest,
        after = past ++ .dispatch session g.message :: rest ∧
        let n := (start config).run (before ++ .dispatch target m :: past)
        n.store.Accepts g ∧
          (¬n.AreOfDifferentPeers session target ∨ n.Drops session g.message target) := by
  by_cases hbefore : ((start config).run before).store.Keeps g
  · exact .inl (h.queued_of_keeps hbefore htime hmatches)
  · rw [run_append, run_cons] at hkept
    obtain hkept | ⟨past, session, rest, rfl, hfiling, haccepts⟩ := exists_accepted_of_keeps hkept
    · -- The filter itself is not stored.
      obtain ⟨hcontents, -⟩ := Message.filterFor?_eq_some_iff.1 h.filter
      have hnone : m.filing? ((start config).run before).config.chain = none := by
        simp only [Message.filing?, Message.kind?_of_contents hcontents]
        rfl
      rw [after_store] at hkept
      have hkept' : (((start config).run before).store.fileMessage
          ((start config).run before).config.chain m).Keeps g := hkept
      rw [Store.fileMessage_of_none hnone] at hkept'
      exact absurd hkept' hbefore
    · rw [after_config, run_config] at hfiling
      rw [← run_cons, ← run_append] at haccepts
      let before' := before ++ .dispatch target m :: past
      -- It was accepted later, from another peer or not.
      by_cases hpeers : ((start config).run before').AreOfDifferentPeers session target
      · obtain hqueued | hdrops := h.queued_or_drops hfiling haccepts htime hmatches hpeers
        · exact .inl hqueued
        · exact .inr ⟨hbefore, past, session, rest, rfl, haccepts, .inr hdrops⟩
      · exact .inr ⟨hbefore, past, session, rest, rfl, haccepts, .inl hpeers⟩

/-- A node that was announced before the filter was set is queued when it is, and an update that
    another peer brings after that is queued when it comes.  There is room for the update and its
    announcement in a queue of two messages only since the reader has taken the first of them. -/
theorem filter_misses_nothing_stored :
    let config := Config.ofChain .bitcoin
    let f : GossipTimestampFilter := ⟨.bitcoin, 1000, 1000⟩
    let node := Recorded.ofContents (NodeAnnouncement.blank 1500)
    let channel := ChannelAnnouncement.blank .bitcoin ⟨5 * 0x10000000000⟩
    let update := Recorded.ofContents (ChannelUpdate.blank channel 1600 0)
    let before : List Event :=
      [.openSession "teller" 8, .openSession "listener" 2, .dispatch 0 node.message]
    let after : List Event :=
      [.dispatch 0 (Contents.toMessage channel), .read 1 1, .dispatch 0 update.message,
        .unregister "teller"]
    Subscribes config before 1 (Contents.toMessage f) f after ∧
      node.message ∈ messagesTo 1
        (((start config).run before).queuedIn (.dispatch 1 (Contents.toMessage f) :: after)) ∧
      ¬((start config).run before).store.Keeps (.update update) ∧
      update.message ∈ messagesTo 1
        (((start config).run before).queuedIn (.dispatch 1 (Contents.toMessage f) :: after)) := by
  intro config f node channel update before after
  let run (past : List Event) : Node :=
    (start config).run (before ++ .dispatch 1 (Contents.toMessage f) :: past)
  have hsubscribes : Subscribes config before 1 (Contents.toMessage f) f after := by
    have hregistered : ∀ past ∈ after.inits, (run past).IsRegistered 1 := by decide +kernel
    refine ⟨Message.filterFor?_eq_some_iff.2 ⟨Message.contents_toMessage f, rfl⟩, ?_, ?_, ?_⟩
    · simp [after]
    · intro past hpast
      exact hregistered past ((List.mem_inits past after).2 hpast)
    · simp [before, after]
  have hstored : ((start config).run before).store.Keeps (.node node) :=
    ⟨node.contents.nodeId, by decide +kernel⟩
  have hnode : (run after).store.Keeps (.node node) := ⟨node.contents.nodeId, by decide +kernel⟩
  have hupdate : (run after).store.Keeps (.update update) := by
    have hfind : (run after).store.channels.find? channel.shortChannelId =
        some { announcement := .ofContents channel, fromFirst := some update } := by
      decide +kernel
    exact ⟨_, _, hfind, List.mem_singleton.2 rfl⟩
  have hnews : ¬((start config).run before).store.Keeps (.update update) := by
    have hnone : ((start config).run before).store.channels.entries = [] := by decide +kernel
    rintro ⟨id, r, hr, -⟩
    rw [← Table.mem_entries_iff, hnone] at hr
    cases hr
  refine ⟨hsubscribes, ?_, hnews, ?_⟩
  · obtain hqueued | ⟨hnew, -⟩ := filter_misses_nothing config before after 1 (Contents.toMessage f)
      f (.node node) 1500 hsubscribes hnode rfl (by decide)
    · exact hqueued
    · exact absurd hstored hnew
  · obtain hqueued | ⟨-, past, session, rest, hafter, -, hexception⟩ := filter_misses_nothing config
      before after 1 (Contents.toMessage f) f (.update update) 1600 hsubscribes hupdate rfl
      (by decide)
    · exact hqueued
    · -- The update is the third event, it comes from another peer, and it finds room for two.
      obtain ⟨rfl, rfl⟩ : past = after.take 2 ∧ session = 0 := by
        have hkinds : Contents.toMessage channel ≠ update.message := by
          intro heq
          have htypes := congrArg Message.typeId heq
          revert htypes
          decide
        -- Only the first and the third event after the filter handle messages of session 0.
        rcases past with _ | ⟨_, _ | ⟨_, _ | ⟨_, _ | ⟨_, past⟩⟩⟩⟩ <;>
          simp only [after, List.nil_append, List.cons_append, List.cons.injEq, List.nil_eq,
            List.append_eq_nil_iff, Event.dispatch.injEq, reduceCtorEq, false_and, and_false]
            at hafter
        · exact absurd hafter.1.2 hkinds
        · obtain ⟨rfl, rfl, ⟨rfl, -⟩, -⟩ := hafter
          exact ⟨rfl, rfl⟩
      have hsender : ((run (after.take 2)).sessions[0]?).map Session.peer = some "teller" := by
        decide +kernel
      have hlistener : ((run (after.take 2)).sessions[1]?).map
          (fun s => (s.peer, s.outbox.room)) = some ("listener", 2) := by
        decide +kernel
      obtain ⟨s, hs, hpeer⟩ := Option.map_eq_some_iff.1 hsender
      obtain ⟨t, ht, hroom⟩ := Option.map_eq_some_iff.1 hlistener
      obtain ⟨hpeer', hroom⟩ := Prod.mk.inj hroom
      obtain hsame | hdrops := hexception
      · exact absurd ⟨s, t, hs, ht, by rw [hpeer, hpeer']; decide⟩ hsame
      · obtain ⟨t', ht', hle⟩ := hdrops.exists_room_le
        obtain rfl : t = t' := Option.some.inj (ht.symm.trans ht')
        omega

/-- A node that announces itself through the peer that set the filter is stored without being queued
    to that peer, and the same announcement from another peer is not queued to it either. -/
theorem own_gossip_not_queued :
    let config := Config.ofChain .bitcoin
    let f : GossipTimestampFilter := ⟨.bitcoin, 1000, 1000⟩
    let node := Recorded.ofContents (NodeAnnouncement.blank 1500)
    let before : List Event := [.openSession "other" 8, .openSession "listener" 8]
    let after : List Event := [.dispatch 1 node.message, .dispatch 0 node.message]
    let n := (start config).run (before ++ .dispatch 1 (Contents.toMessage f) :: after)
    Subscribes config before 1 (Contents.toMessage f) f after ∧
      n.store.Keeps (.node node) ∧ f.matches node.contents.timestamp ∧
      .dispatch 0 node.message ∈ after ∧ n.AreOfDifferentPeers 0 1 ∧
      (∀ past session m rest, after = past ++ .dispatch session m :: rest →
        ¬((start config).run (before ++ .dispatch 1 (Contents.toMessage f) :: past)).Drops
          session m 1) ∧
      messagesTo 1 (((start config).run before).queuedIn
        (.dispatch 1 (Contents.toMessage f) :: after)) = [] := by
  intro config f node before after n
  -- There are three states to look at: after the filter, after the first and after the second
  -- event.
  have hprefixes : ∀ past, past <+: after →
      past = [] ∨ past = [.dispatch 1 node.message] ∨ past = after := by
    intro past hpast
    simp only [after, List.prefix_cons_iff, List.prefix_nil] at hpast
    obtain rfl | ⟨_, rfl, rfl | ⟨_, rfl, rfl⟩⟩ := hpast
    · exact .inl rfl
    · exact .inr (.inl rfl)
    · exact .inr (.inr rfl)
  have hroom : ∀ past, past <+: after → ((((start config).run (before ++
      .dispatch 1 (Contents.toMessage f) :: past)).sessions[1]?).map fun s => s.outbox.room) =
        some 8 := by
    intro past hpast
    obtain rfl | rfl | rfl := hprefixes past hpast
    · decide +kernel
    · decide +kernel
    · decide +kernel
  refine ⟨⟨Message.filterFor?_eq_some_iff.2 ⟨Message.contents_toMessage f, rfl⟩, ?_, ?_, ?_⟩,
    ⟨node.contents.nodeId, by decide +kernel⟩, by decide, by simp [after], ?_, ?_,
    by decide +kernel⟩
  · intro m hm
    obtain rfl : m = node.message := by simpa [after] using hm
    decide +kernel
  · intro past hpast
    obtain rfl | rfl | rfl := hprefixes past hpast
    · decide +kernel
    · decide +kernel
    · decide +kernel
  · simp [before, after]
  · have hother : (n.sessions[0]?).map Session.peer = some "other" := by decide +kernel
    have hlistener : (n.sessions[1]?).map Session.peer = some "listener" := by decide +kernel
    obtain ⟨s, hs, hpeer⟩ := Option.map_eq_some_iff.1 hother
    obtain ⟨t, ht, hpeer'⟩ := Option.map_eq_some_iff.1 hlistener
    exact ⟨s, t, hs, ht, by rw [hpeer, hpeer']; decide⟩
  · rintro past session m rest hafter hdrops
    obtain ⟨s, hs, hle⟩ := hdrops.exists_room_le
    have height := hroom past ⟨_, hafter.symm⟩
    rw [hs] at height
    have : s.outbox.room = 8 := Option.some.inj height
    omega

end ChannelGossip.Node
