import ChannelGossip.Proofs.Node.News
import ChannelGossip.Proofs.Store.Introduction
import ChannelGossip.Proofs.Store.Keeping

/-! # Repeated gossip

Gossip from which the store learns nothing is not passed on, and gossip that has been handled
teaches nothing any more.  So gossip dies out among nodes that pass it to each other.  Main
statements:

* `Node.dispatch_of_not_learns`   gossip that is no news changes nothing
* `Node.Spent`   what has been passed on, which stays so and is not passed on again
* `Node.absorbs_repeated_gossip`   the same message again, and news in a run -/

namespace ChannelGossip

/-- A message announces one channel at most by `Announces`. -/
theorem Message.Announces.unique {m : Message} {id id' : ShortChannelId} (h : m.Announces id)
    (h' : m.Announces id') : id = id' := by
  obtain ⟨a, ha, rfl⟩ := h
  obtain ⟨a', ha', rfl⟩ := h'
  rw [Except.ok.inj (ha.symm.trans ha')]

namespace Node

variable {n : Node} {m a x : Message} {news : Relay} {P : Message → Prop}

/-! ## Gossip that is no news -/

/-- `apply` for a reaction that keeps the store and says nothing else changes nothing. -/
theorem apply_nothing (n : Node) (session : Nat) :
    (n.apply session { store := n.store }).node = n ∧
      (n.apply session { store := n.store }).queued = [] := by
  rw [apply_of_no_relay n session rfl, noted_of_replies]
  cases hs : n.sessions[session]? with
  | none => simp only [send, hs, and_self]
  | some s => simp only [send_nil hs, and_self]

/-- `dispatch` of gossip from which the store learns nothing changes and queues nothing. -/
theorem dispatch_of_not_learns (hgossip : m.IsGossip) (h : ¬n.store.Learns n.config.chain m)
    (session : Nat) :
    (n.dispatch n.dispatcher session m).node = n ∧
      (n.dispatch n.dispatcher session m).queued = [] := by
  obtain hquiet | ⟨r, hreacts, hnode, hqueued⟩ := n.quiet_or_reacts session m
  · exact hquiet
  · have hr : r = { store := n.store } := by
      cases hreacts with
      | files old => rw [Store.fileMessage_eq_self h]
      | update filing known newer =>
        exact absurd (Store.learns_iff.2 ⟨_, filing, _, known, newer⟩) h
      | node filing newer => exact absurd (Store.learns_iff.2 ⟨_, filing, newer⟩) h
      -- The other reactions are to messages of other kinds.
      | pong kind => exact absurd (hgossip.kind_mem kind) (by decide)
      | _ => exact absurd (hgossip.kind_mem (Message.kind?_of_contents ‹_›)) (by decide)
    rw [hnode, hqueued, hr]
    exact n.apply_nothing session

/-- `dispatch` changes and queues nothing for gossip that the store `Covers`. -/
theorem dispatch_of_covers (hgossip : m.IsGossip)
    (h : ∀ f, m.filing? n.config.chain = some f → n.store.Covers f) (session : Nat) :
    (n.dispatch n.dispatcher session m).node = n ∧
      (n.dispatch n.dispatcher session m).queued = [] := by
  refine dispatch_of_not_learns hgossip (fun hlearns => ?_) session
  obtain ⟨f, hf, haccepts⟩ := Store.learns_iff.1 hlearns
  exact (h f hf).not_accepts haccepts

/-! ## What has been passed on -/

/-- A message that has been passed on: there is something as new in its place, and if it announces a
    channel then the channel has updates. -/
structure Spent (chain : ChainHash) (s : Store) (m : Message) : Prop where
  covers : ∃ f, m.filing? chain = some f ∧ s.Covers f
  updates_ne_nil : ∀ id, m.Announces id → s.updates id ≠ []

/-- `fileMessage` keeps `Spent`. -/
theorem Spent.fileMessage {chain : ChainHash} {s : Store} (h : Spent chain s a) (m : Message) :
    Spent chain (s.fileMessage chain m) a where
  covers := by
    obtain ⟨f, hf, hcovers⟩ := h.covers
    exact ⟨f, hf, hcovers.fileMessage chain m⟩
  updates_ne_nil id hid := Store.updates_fileMessage_ne_nil (h.updates_ne_nil id hid) chain m

/-- Two messages that are neither the same nor about the announcement of one channel. -/
def Distinct (a b : Message) : Prop := a ≠ b ∧ ∀ id, ¬(a.Announces id ∧ b.Announces id)

/-- A message that makes news does not announce a channel. -/
theorem not_announces_of_news? (h : n.news? m = some news) (id : ShortChannelId) :
    ¬m.Announces id := by
  intro hannounces
  obtain ⟨f, hf, -, htime, -⟩ := exists_filing_of_news? h
  have hkind := (Message.kind?_of_filing? hf).symm.trans hannounces.kind?_eq
  -- News have a time, which the announcement of a channel does not have.
  cases f with
  | channel a => cases htime
  | update u => cases hkind
  | node a => cases hkind

/-- What is `Spent` is none of the news that a message makes. -/
theorem Spent.distinct_of_news? (ha : Spent n.config.chain n.store a)
    (hstore : n.store.Holds n.config.chain P) (h : n.news? m = some news)
    (hx : x ∈ news.messages) : Distinct a x := by
  obtain ⟨f, hf, haccepts, -, hmessages⟩ := exists_filing_of_news? h
  -- The message itself is accepted, and what has been passed on is not.
  have hm : Distinct a m := by
    refine ⟨?_, fun id hid => not_announces_of_news? h id hid.2⟩
    rintro rfl
    obtain ⟨f', hf', hcovers⟩ := ha.covers
    obtain rfl := Option.some.inj (hf.symm.trans hf')
    exact hcovers.not_accepts haccepts
  obtain hmessages | ⟨u, r, rfl, hr, hfirst, hmessages⟩ := hmessages
  · rw [hmessages] at hx
    rwa [List.mem_singleton.1 hx]
  · rw [hmessages] at hx
    obtain rfl | rfl := List.mem_pair.1 hx
    · -- The channel has no updates yet, so that it has not been announced.
      have hannounces := hstore.announces hr
      have hnone : ¬a.Announces u.contents.shortChannelId := by
        intro hid
        refine ha.updates_ne_nil _ hid ?_
        rw [Store.updates, hr, Option.map_some, Option.getD_some, hfirst]
      refine ⟨?_, fun id hid => ?_⟩
      · rintro rfl
        exact hnone hannounces
      · obtain rfl := hid.2.unique hannounces
        exact hnone hid.1
    · exact hm

/-- News tell of nothing twice: at most of the announcement of a channel and of its first update. -/
theorem pairwise_of_news? (hstore : n.store.Holds n.config.chain P) (h : n.news? m = some news) :
    news.messages.Pairwise Distinct := by
  obtain ⟨f, -, -, -, hmessages | ⟨u, r, -, hr, -, hmessages⟩⟩ := exists_filing_of_news? h
  · rw [hmessages]
    exact List.pairwise_singleton _ _
  · rw [hmessages, List.pairwise_pair]
    refine ⟨?_, fun id hid => not_announces_of_news? h id hid.2⟩
    intro heq
    exact not_announces_of_news? h _ (heq ▸ hstore.announces hr)

/-- The messages of news are `Spent` once the message that made them is filed. -/
theorem spent_of_news? (hstore : n.store.Holds n.config.chain P) (h : n.news? m = some news)
    (hx : x ∈ news.messages) :
    Spent n.config.chain (n.store.fileMessage n.config.chain m) x := by
  obtain ⟨f, hf, haccepts, -, hmessages⟩ := exists_filing_of_news? h
  have hm : Spent n.config.chain (n.store.fileMessage n.config.chain m) m := by
    refine ⟨⟨f, hf, ?_⟩, fun id hid => absurd hid (not_announces_of_news? h id)⟩
    rw [Store.fileMessage_of_some hf]
    refine Store.covers_file fun u hu => ?_
    subst hu
    obtain ⟨r, hr, -⟩ := haccepts
    exact ⟨r, hr⟩
  obtain hmessages | ⟨u, r, rfl, hr, -, hmessages⟩ := hmessages
  · rw [hmessages] at hx
    rwa [List.mem_singleton.1 hx]
  · rw [hmessages] at hx
    obtain rfl | rfl := List.mem_pair.1 hx
    · obtain ⟨hfrom, hid⟩ := hstore.channel _ r hr
      refine ⟨⟨_, hfrom.filing?, ?_⟩, fun id hannounces => ?_⟩
      · have hcovers : n.store.Covers (.channel r.announcement) := ⟨r, by rw [hid, hr]⟩
        exact hcovers.fileMessage _ m
      · -- Now the channel has the update.
        obtain rfl := hannounces.unique (hstore.announces hr)
        obtain ⟨r', hr', hnewer⟩ := haccepts
        have hmem : u ∈ (r'.withUpdate u).updates := by
          rw [ChannelRecord.mem_updates_iff]
          exact ⟨_, by rw [ChannelRecord.newest_withUpdate, if_pos rfl]⟩
        rw [Store.fileMessage_of_some hf, Store.file_update_of_newer hr' hnewer, Store.updates,
          Table.find?_insert, if_pos rfl, Option.map_some, Option.getD_some]
        exact List.ne_nil_of_mem hmem
    · exact hm

/-- Whatever happens keeps `Spent`. -/
theorem Spent.after (h : Spent n.config.chain n.store a) (e : Event) :
    Spent n.config.chain (n.after e).store a := by
  rw [after_store]
  cases e.message? with
  | none => exact h
  | some m => exact h.fileMessage m

/-- What is passed on to `target` when something happens is `Distinct` from each other and from all
    that is `Spent`, and is `Spent` after that. -/
theorem relayedBy_distinct (hown : n.HasOwnSessions) (hstore : n.store.Holds n.config.chain P)
    (e : Event) (target : Nat) :
    let ms := messagesTo target (n.relayedBy e)
    ms.Pairwise Distinct ∧ (∀ a, Spent n.config.chain n.store a → ∀ x ∈ ms, Distinct a x) ∧
      ∀ x ∈ ms, Spent n.config.chain (n.after e).store x := by
  intro ms
  have hquiet : n.relayedBy e = [] → ms = [] := by
    intro hnil
    simp only [ms, hnil, messagesTo_nil]
  cases e with
  | dispatch session m =>
    cases hnews : n.news? m with
    | none =>
      rw [hquiet (by rw [relayedBy, hnews]; rfl)]
      exact ⟨.nil, fun _ _ => List.forall_mem_nil _, List.forall_mem_nil _⟩
    | some news =>
      have hrelayed : n.relayedBy (.dispatch session m) = n.queuedBy (.dispatch session m) := by
        rw [relayedBy, hnews]
        rfl
      -- The session gets as much of the news as there is room for, from the front.
      have hfront : ms <+: news.messages := by
        simp only [ms, hrelayed]
        exact messagesTo_queuedBy_of_news? hown hnews session target
      refine ⟨(pairwise_of_news? hstore hnews).sublist hfront.sublist, fun a ha x hx => ?_,
        fun x hx => ?_⟩
      · exact ha.distinct_of_news? hstore hnews (hfront.subset hx)
      · rw [after_store]
        exact spent_of_news? hstore hnews (hfront.subset hx)
  | _ =>
    rw [hquiet rfl]
    exact ⟨.nil, fun _ _ => List.forall_mem_nil _, List.forall_mem_nil _⟩

/-- In a run `target` is passed nothing twice, and all that it is passed is `Spent`. -/
theorem relayedIn_distinct (config : Config) (events : List Event) (target : Nat) :
    (messagesTo target ((start config).relayedIn events)).Pairwise Distinct ∧
      ∀ a ∈ messagesTo target ((start config).relayedIn events),
        Spent config.chain ((start config).run events).store a := by
  -- The last event passes on what is distinct from everything before it.
  induction events using List.reverseRecOn with
  | nil => exact ⟨.nil, List.forall_mem_nil _⟩
  | append_singleton events e ih =>
    obtain ⟨hdistinct, hspent⟩ := ih
    have hchain : ((start config).run events).config.chain = config.chain := by
      rw [run_config]
      rfl
    have hstore : ((start config).run events).store.Holds
        ((start config).run events).config.chain fun _ => True := by
      rw [hchain]
      exact holds_run config fun _ _ _ _ => trivial
    obtain ⟨hnew, hdistinct', hspent'⟩ :=
      relayedBy_distinct (hasOwnSessions_run config events) hstore e target
    rw [hchain] at hdistinct' hspent'
    rw [relayedIn_append, relayedIn, relayedIn, List.append_nil, messagesTo_append, run_append,
      run_cons, run_nil]
    refine ⟨List.pairwise_append.2 ⟨hdistinct, hnew, fun a ha => hdistinct' a (hspent a ha)⟩,
      fun a ha => ?_⟩
    -- ha :=
    obtain ha | ha := List.mem_append.1 ha
    · have hbefore := hspent a ha
      rw [← hchain] at hbefore ⊢
      exact hbefore.after e
    · exact hspent' a ha

/-! ## Runs -/

/-- Gossip that has been handled changes nothing when it comes again, whatever happened in `between`
    and whichever session it comes from, if by `hknown` it was no update of a channel on the node's
    chain that was not known.  In a run no message is passed on to a session twice, and no channel
    is announced to it twice by passing news on. -/
theorem absorbs_repeated_gossip (config : Config) :
    (∀ (past between : List Event) (session session' : Nat) (m : Message), m.IsGossip →
      (∀ u, m.contents ChannelUpdate = .ok u → u.chainHash = config.chain →
        ∃ r, ((start config).run past).store.channels.find? u.shortChannelId = some r) →
      let n := (start config).run (past ++ .dispatch session m :: between)
      (n.dispatch n.dispatcher session' m).node = n ∧
        (n.dispatch n.dispatcher session' m).queued = []) ∧
    ∀ (events : List Event) (target : Nat),
      (messagesTo target ((start config).relayedIn events)).Pairwise fun a b =>
        a ≠ b ∧ ∀ id, ¬(a.Announces id ∧ b.Announces id) := by
  refine ⟨fun past between session session' m hgossip hknown => ?_, fun events target =>
    (relayedIn_distinct config events target).1⟩
  intro n
  refine dispatch_of_covers hgossip (fun f hf => ?_) session'
  have hfiling : m.filing? config.chain = some f := by
    simp only [n, run_config] at hf
    exact hf
  -- Handling it the first time has filed it.
  have hcovers : (((start config).run past).after (.dispatch session m)).store.Covers f := by
    rw [after_store, run_config]
    show (((start config).run past).store.fileMessage config.chain m).Covers f
    rw [Store.fileMessage_of_some hfiling]
    refine Store.covers_file fun u hu => ?_
    subst hu
    obtain ⟨hrecord, hchain⟩ := Message.filing?_eq_update_iff.1 hfiling
    exact hknown u.contents (Message.record_eq_ok_iff.1 hrecord).1 hchain
  simp only [n, run_append, run_cons]
  rw [run_store]
  exact hcovers.fileAll _ _

/-- An update that comes again from a peer that it was passed on to, when its first sender has gone,
    changes nothing. -/
theorem absorbs_returned_update :
    let config := Config.ofChain .bitcoin
    let channel := ChannelAnnouncement.blank .bitcoin ⟨5 * 0x10000000000⟩
    let update := Contents.toMessage (ChannelUpdate.blank channel 1500 0)
    let past : List Event :=
      [.openSession "first" 8, .openSession "second" 8,
       .dispatch 1 (Contents.toMessage (⟨.bitcoin, 1000, 1000⟩ : GossipTimestampFilter)),
       .dispatch 0 (Contents.toMessage channel)]
    let n := (start config).run (past ++ .dispatch 0 update :: [.unregister "first"])
    update ∈ messagesTo 1 ((start config).relayedIn (past ++ [.dispatch 0 update])) ∧
      (n.dispatch n.dispatcher 1 update).node = n ∧
      (n.dispatch n.dispatcher 1 update).queued = [] := by
  intro config channel update past n
  refine ⟨by decide +kernel, ?_⟩
  refine (absorbs_repeated_gossip config).1 past [.unregister "first"] 0 1 update
    (by decide +kernel) fun u hu _ => ?_
  obtain rfl := Except.ok.inj ((Message.contents_toMessage _).symm.trans hu)
  exact Option.isSome_iff_exists.1 (by decide +kernel)

end Node

end ChannelGossip
