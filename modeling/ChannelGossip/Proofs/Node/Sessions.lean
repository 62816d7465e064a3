import ChannelGossip.Proofs.Node.Log
import ChannelGossip.Proofs.Node.Queries
import ChannelGossip.Proofs.Node.Reaction

/-! # Sessions in a run

A session is of one peer for good, somebody reads it until the reader hangs up, and its filter is
the last one for the node's chain that came from it.  The registry names for each peer one session
of that peer, so that nobody is in an audience twice.  Main statements:

* `Message.filterFor?`   the filters that count
* `Node.exists_getElem?_after`, `Node.exists_getElem?_run`   what becomes of a session
* `Node.isOpen_run`   which sessions somebody reads
* `Node.contents_run`   where the messages on their way to a session come from
* `Node.hasOwnSessions_run`, `Node.nodup_audience`   the registry -/

namespace ChannelGossip

/-! ## Filters that count -/

namespace Message

/-- The filter for the given chain that a message sets, if it does. -/
def filterFor? (chain : ChainHash) (m : Message) : Option GossipTimestampFilter :=
  (m.contents GossipTimestampFilter).toOption.filter (·.chainHash = chain)

theorem filterFor?_eq_some_iff {chain : ChainHash} {m : Message} {f : GossipTimestampFilter} :
    m.filterFor? chain = some f ↔
      m.contents GossipTimestampFilter = .ok f ∧ f.chainHash = chain := by
  rw [filterFor?, Option.filter_eq_some_iff, decide_eq_true_eq]
  cases m.contents GossipTimestampFilter with
  | error e => simp [Except.toOption]
  | ok f' => simp [Except.toOption]

end Message

namespace Node

variable {n : Node} {number session : Nat} {s : Session} {m : Message} {f : GossipTimestampFilter}

/-- A message with `filterFor?` is noted, and the stored gossip that matches it is sent. -/
theorem react_of_filterFor? (h : m.filterFor? n.config.chain = some f) :
    (n.serviceOf .gossipTimestampFilter).react n.store m =
      .ok { store := n.store, note := some (.filter f), replies := n.store.matching f } := by
  obtain ⟨hcontents, hchain⟩ := Message.filterFor?_eq_some_iff.1 h
  have hkind : m.kind? = some .gossipTimestampFilter := Message.kind?_of_contents hcontents
  show Gossip.react n.config.chain n.config.maxReplyIds n.store m = _
  simp only [Gossip.react, hkind, hcontents]
  show Except.ok (Gossip.onTimestampFilter n.config.chain n.store f) = _
  rw [Gossip.onTimestampFilter, if_pos hchain]

/-- In reaction to a message without `filterFor?` no filter is noted. -/
theorem Reacts.note_ne_filter {r : Reaction} (h : n.Reacts m r)
    (hfilter : m.filterFor? n.config.chain = none) : r.note ≠ some (.filter f) := by
  intro hnote
  cases h with
  | filter contents own =>
    have hsome := Message.filterFor?_eq_some_iff.2 ⟨contents, own⟩
    cases hfilter.symm.trans hsome
  | init contents => simp at hnote
  | pong kind => simp at hnote
  | _ => cases hnote

/-! ## What becomes of a session -/

/-- Unless a filter is noted the filter stays. -/
theorem filter_noted {note : Option PeerNote} (h : ∀ f, note ≠ some (.filter f)) :
    (note.elim s s.record).filter = s.filter := by
  cases note with
  | none => rfl
  | some note =>
    cases note with
    | filter f => exact absurd rfl (h f)
    | _ => rfl

/-- `apply` changes sessions no further than it is noted. -/
theorem exists_getElem?_apply (hs : n.sessions[number]? = some s) (session : Nat) (r : Reaction) :
    ∃ s', (n.apply session r).node.sessions[number]? = some s' ∧ s'.peer = s.peer ∧
      s'.outbox.isOpen = s.outbox.isOpen ∧
      s'.filter = if session = number then (r.note.elim s s.record).filter else s.filter := by
  obtain ⟨s', hs', hreceives⟩ :=
    (n.delivers_apply session r).receives number _ (getElem?_noted hs session r)
  have hknowledge := hreceives.knowledge_eq
  have hisOpen := hreceives.isOpen_eq
  simp only [Session.knowledge, Prod.mk.injEq] at hknowledge
  refine ⟨s', hs', ?_⟩
  by_cases hsession : session = number
  · simp only [if_pos hsession] at hknowledge hisOpen ⊢
    rw [s.peer_noted] at hknowledge
    rw [s.outbox_noted] at hisOpen
    exact ⟨hknowledge.1, hisOpen, hknowledge.2.2.1⟩
  · simp only [if_neg hsession] at hknowledge hisOpen ⊢
    exact ⟨hknowledge.1, hisOpen, hknowledge.2.2.1⟩

/-- `dispatch` changes the filter of the session that the message came from, if it sets one. -/
theorem exists_getElem?_dispatch (hs : n.sessions[number]? = some s) (session : Nat) (m : Message) :
    ∃ s', (n.dispatch n.dispatcher session m).node.sessions[number]? = some s' ∧
      s'.peer = s.peer ∧ s'.outbox.isOpen = s.outbox.isOpen ∧
      s'.filter =
        if session = number then (m.filterFor? n.config.chain).or s.filter else s.filter := by
  cases hfilter : m.filterFor? n.config.chain with
  | some f =>
    obtain ⟨hcontents, -⟩ := Message.filterFor?_eq_some_iff.1 hfilter
    rw [dispatch_eq_of_ok session (Message.kind?_of_contents hcontents)
      (react_of_filterFor? hfilter)]
    exact exists_getElem?_apply hs session _
  | none =>
    rw [Option.none_or, ite_self]
    obtain ⟨hnode, -⟩ | ⟨r, hreacts, hnode, -⟩ := n.quiet_or_reacts session m
    · rw [hnode]
      exact ⟨s, hs, rfl, rfl, rfl⟩
    · obtain ⟨s', hs', hpeer, hisOpen, hs'filter⟩ := exists_getElem?_apply hs session r
      rw [filter_noted fun f => hreacts.note_ne_filter hfilter, ite_self] at hs'filter
      rw [hnode]
      exact ⟨s', hs', hpeer, hisOpen, hs'filter⟩

/-- `dispatch` appends what it queues to what is on its way. -/
theorem contents_dispatch (hs : n.sessions[number]? = some s) (session : Nat) (m : Message) :
    let step := n.dispatch n.dispatcher session m
    ∃ s', step.node.sessions[number]? = some s' ∧
      s'.outbox.contents = s.outbox.contents ++ messagesTo number step.queued := by
  intro step
  obtain ⟨hnode, hqueued⟩ | ⟨r, -, hnode, hqueued⟩ := n.quiet_or_reacts session m
  · rw [hnode, hqueued]
    exact ⟨s, hs, (List.append_nil _).symm⟩
  · rw [hnode, hqueued]
    obtain ⟨s', hs', hreceives⟩ :=
      (n.delivers_apply session r).receives number _ (getElem?_noted hs session r)
    refine ⟨s', hs', ?_⟩
    rw [hreceives.contents_eq]
    split
    · rw [s.outbox_noted]
    · rfl

/-- The filter that an event sets for a session. -/
def Event.filterFor? (chain : ChainHash) (number : Nat) : Event → Option GossipTimestampFilter
  | .dispatch session m => if session = number then m.filterFor? chain else none
  | _ => none

/-- A session stays, with its peer, is read until its reader hangs up, and keeps its filter until
    the peer sets another. -/
theorem exists_getElem?_after (hs : n.sessions[number]? = some s) (e : Event) :
    ∃ s', (n.after e).sessions[number]? = some s' ∧ s'.peer = s.peer ∧
      (e ≠ .hangUp number → s'.outbox.isOpen = s.outbox.isOpen) ∧
      s'.filter = (e.filterFor? n.config.chain number).or s.filter := by
  cases e with
  | openSession peer capacity =>
    -- A new session gets a number that is not used yet.
    have hlt : number < n.sessions.length := (List.getElem?_eq_some_iff.1 hs).1
    refine ⟨s, ?_, rfl, fun _ => rfl, rfl⟩
    show (n.sessions ++ [.create peer capacity])[number]? = some s
    rw [List.getElem?_append_left hlt, hs]
  | unregister peer => exact ⟨s, hs, rfl, fun _ => rfl, rfl⟩
  | dispatch session m =>
    obtain ⟨s', hs', hpeer, hisOpen, hfilter⟩ := exists_getElem?_dispatch hs session m
    refine ⟨s', hs', hpeer, fun _ => hisOpen, ?_⟩
    rw [hfilter, Event.filterFor?]
    split
    · rfl
    · rfl
  | read session count =>
    refine ⟨_, getElem?_updateSession hs session _, ?_⟩
    split
    · exact ⟨rfl, fun _ => rfl, rfl⟩
    · exact ⟨rfl, fun _ => rfl, rfl⟩
  | hangUp session =>
    refine ⟨_, getElem?_updateSession hs session _, ?_⟩
    split
    · rename_i hsession
      exact ⟨rfl, fun hother => absurd (congrArg Event.hangUp hsession) hother, rfl⟩
    · exact ⟨rfl, fun _ => rfl, rfl⟩

/-- The filter of a session after a run is the last one that it set, if it set any. -/
theorem exists_getElem?_run (hs : n.sessions[number]? = some s) (events : List Event) :
    ∃ s', (n.run events).sessions[number]? = some s' ∧ s'.peer = s.peer ∧
      (.hangUp number ∉ events → s'.outbox.isOpen = s.outbox.isOpen) ∧
      s'.filter =
        ((events.filterMap (·.filterFor? n.config.chain number)).getLast?).or s.filter := by
  induction events generalizing n s with
  | nil => exact ⟨s, hs, rfl, fun _ => rfl, rfl⟩
  | cons e events ih =>
    obtain ⟨s', hs', hpeer, hisOpen, hfilter⟩ := exists_getElem?_after hs e
    obtain ⟨s'', hs'', hpeer', hisOpen', hfilter'⟩ := ih hs'
    refine ⟨s'', hs'', hpeer'.trans hpeer, fun hread => ?_, ?_⟩
    · rw [List.mem_cons, not_or] at hread
      exact (hisOpen' hread.2).trans (hisOpen (Ne.symm hread.1))
    · rw [hfilter', hfilter, after_config]
      -- If the first event sets a filter, it counts unless another one comes later.
      cases hset : e.filterFor? n.config.chain number with
      | none => rw [List.filterMap_cons_none hset, Option.none_or]
      | some f =>
        rw [List.filterMap_cons_some hset, List.getLast?_cons, Option.some_or, Option.some_or]
        cases (events.filterMap (·.filterFor? n.config.chain number)).getLast? <;> rfl

/-- A session that there was not before is new: only `openSession` adds one. -/
theorem eq_create_of_after (hnone : n.sessions[number]? = none) {e : Event}
    (hs : (n.after e).sessions[number]? = some s) : ∃ peer capacity, s = .create peer capacity := by
  have hle : n.sessions.length ≤ number := List.getElem?_eq_none_iff.1 hnone
  have hlt : number < (n.after e).sessions.length := (List.getElem?_eq_some_iff.1 hs).1
  cases e with
  | openSession peer capacity =>
    have hs' : (n.sessions ++ [.create peer capacity])[number]? = some s := hs
    rw [List.getElem?_append_right hle, List.getElem?_singleton] at hs'
    split at hs'
    · exact ⟨peer, capacity, (Option.some.inj hs').symm⟩
    · cases hs'
  | unregister peer => exact absurd hlt (Nat.not_lt.2 hle)
  | dispatch session m =>
    rw [after, (n.dispatch_frame session m).2.2.2] at hlt
    exact absurd hlt (Nat.not_lt.2 hle)
  | read session count =>
    rw [after, updateSession, List.length_modify] at hlt
    exact absurd hlt (Nat.not_lt.2 hle)
  | hangUp session =>
    rw [after, updateSession, List.length_modify] at hlt
    exact absurd hlt (Nat.not_lt.2 hle)

/-- Somebody reads every session of which the reader has not hung up. -/
theorem isOpen_run (config : Config) {events : List Event} (hread : .hangUp number ∉ events)
    (hs : ((start config).run events).sessions[number]? = some s) : s.outbox.isOpen := by
  induction events using List.reverseRecOn generalizing s with
  | nil => cases hs
  | append_singleton events e ih =>
    rw [List.mem_append, List.mem_singleton, not_or] at hread
    rw [run_append, run_cons, run_nil] at hs
    -- The last event opened the session, or it was there before.
    cases hbefore : ((start config).run events).sessions[number]? with
    | none =>
      obtain ⟨peer, capacity, rfl⟩ := eq_create_of_after hbefore hs
      rfl
    | some t =>
      obtain ⟨s', hs', -, hisOpen, -⟩ := exists_getElem?_after hbefore e
      obtain rfl : s' = s := Option.some.inj (hs'.symm.trans hs)
      rw [hisOpen (Ne.symm hread.2)]
      exact ih hread.1 hbefore

/-- What is on its way after something has happened was on its way before or was queued by it. -/
theorem contents_after (hs : n.sessions[number]? = some s) (e : Event) :
    ∃ s', (n.after e).sessions[number]? = some s' ∧
      s'.outbox.contents.Sublist (s.outbox.contents ++ messagesTo number (n.queuedBy e)) := by
  cases e with
  | openSession peer capacity =>
    have hlt : number < n.sessions.length := (List.getElem?_eq_some_iff.1 hs).1
    refine ⟨s, ?_, List.sublist_append_left _ _⟩
    show (n.sessions ++ [.create peer capacity])[number]? = some s
    rw [List.getElem?_append_left hlt, hs]
  | unregister peer => exact ⟨s, hs, List.sublist_append_left _ _⟩
  | dispatch session m =>
    obtain ⟨s', hs', hcontents⟩ := contents_dispatch hs session m
    exact ⟨s', hs', hcontents ▸ .refl _⟩
  | read session count =>
    refine ⟨_, getElem?_updateSession hs session _, ?_⟩
    split
    · -- The reader takes from the front of what is on its way.
      show (s.outbox.read count).contents.Sublist _
      rw [Outbox.contents_read]
      exact (List.drop_sublist _ _).trans (List.sublist_append_left _ _)
    · exact List.sublist_append_left _ _
  | hangUp session =>
    refine ⟨_, getElem?_updateSession hs session _, ?_⟩
    split
    · -- What the reader has taken is still written.
      show (s.outbox.taken.reverse ++ []).Sublist _
      exact ((List.nil_sublist _).append_left _).trans (List.sublist_append_left _ _)
    · exact List.sublist_append_left _ _

/-- What is on its way to a session after a run was queued to it in the run. -/
theorem contents_run (config : Config) (events : List Event)
    (hs : ((start config).run events).sessions[number]? = some s) :
    s.outbox.contents.Sublist (messagesTo number ((start config).queuedIn events)) := by
  induction events using List.reverseRecOn generalizing s with
  | nil => cases hs
  | append_singleton events e ih =>
    rw [run_append, run_cons, run_nil] at hs
    cases hbefore : ((start config).run events).sessions[number]? with
    | none =>
      obtain ⟨peer, capacity, rfl⟩ := eq_create_of_after hbefore hs
      exact List.nil_sublist _
    | some t =>
      obtain ⟨s', hs', hcontents⟩ := contents_after hbefore e
      obtain rfl : s' = s := Option.some.inj (hs'.symm.trans hs)
      rw [queuedIn_append, messagesTo_append, queuedIn, queuedIn, List.append_nil]
      exact hcontents.trans ((ih hbefore).append_right _)

/-! ## The registry -/

/-- The current session of each peer is a session of that peer. -/
def HasOwnSessions (n : Node) : Prop :=
  ∀ peer number, n.registry.find? peer = some number →
    ∃ s, n.sessions[number]? = some s ∧ s.peer = peer

/-- A session is the current one of its peer. -/
def IsRegistered (n : Node) (number : Nat) : Prop :=
  ∃ s, n.sessions[number]? = some s ∧ n.registry.find? s.peer = some number

instance (n : Node) (number : Nat) : Decidable (n.IsRegistered number) :=
  match h : n.sessions[number]? with
  | none => isFalse fun ⟨s, hs, _⟩ => by cases h.symm.trans hs
  | some s =>
    if hfind : n.registry.find? s.peer = some number then isTrue ⟨s, h, hfind⟩
    else isFalse fun ⟨t, ht, hfind'⟩ => hfind (Option.some.inj (h.symm.trans ht) ▸ hfind')

theorem hasOwnSessions_start (config : Config) : (start config).HasOwnSessions := by
  intro peer number h
  cases h

/-- Whatever happens keeps `HasOwnSessions`. -/
theorem HasOwnSessions.after (h : n.HasOwnSessions) (e : Event) : (n.after e).HasOwnSessions := by
  intro peer number hfind
  -- A session stays that of its peer, so only changes of the registry matter.
  have hkept : n.registry.find? peer = some number →
      ∃ s, (n.after e).sessions[number]? = some s ∧ s.peer = peer := by
    intro hfind
    obtain ⟨s, hs, rfl⟩ := h peer number hfind
    obtain ⟨s', hs', hpeer, -⟩ := exists_getElem?_after hs e
    exact ⟨s', hs', hpeer⟩
  cases e with
  | openSession opened capacity =>
    have hinsert : (n.registry.insert opened n.nextSession).find? peer = some number := hfind
    rw [Table.find?_insert] at hinsert
    split at hinsert
    · rename_i hpeer
      obtain rfl := Option.some.inj hinsert
      exact ⟨.create opened capacity, List.getElem?_concat_length, hpeer⟩
    · exact hkept hinsert
  | unregister closed =>
    have herase : (n.registry.erase closed).find? peer = some number := hfind
    rw [Table.find?_erase] at herase
    split at herase
    · cases herase
    · exact hkept herase
  | dispatch session m =>
    rw [Node.after, (n.dispatch_frame session m).2.2.1] at hfind
    exact hkept hfind
  | read session count => exact hkept hfind
  | hangUp session => exact hkept hfind

theorem hasOwnSessions_run (config : Config) (events : List Event) :
    ((start config).run events).HasOwnSessions := by
  induction events using List.reverseRecOn with
  | nil => exact hasOwnSessions_start config
  | append_singleton events e ih =>
    rw [run_append, run_cons, run_nil]
    exact ih.after e

/-! ## Audiences -/

/-- The `audience` of news is the current sessions of other peers that want them. -/
theorem mem_audience_iff {sender : String} {timestamp : UInt32} :
    number ∈ n.audience sender timestamp ↔ ∃ peer s, n.registry.find? peer = some number ∧
      peer ≠ sender ∧ n.sessions[number]? = some s ∧ s.wants timestamp := by
  simp only [audience, List.mem_map, List.mem_filter, Bool.and_eq_true, decide_eq_true_eq,
    Option.any_eq_true_iff_get, Prod.exists, exists_eq_right]
  constructor
  · rintro ⟨peer, hentry, hpeer, hsome, hwants⟩
    exact ⟨peer, _, (Table.mem_entries_iff _ _ _).1 hentry, hpeer, (Option.some_get hsome).symm,
      hwants⟩
  · rintro ⟨peer, s, hfind, hpeer, hs, hwants⟩
    refine ⟨peer, (Table.mem_entries_iff _ _ _).2 hfind, hpeer, by simp [hs], ?_⟩
    simpa [hs] using hwants

/-- Nobody is in an `audience` twice. -/
theorem nodup_audience (h : n.HasOwnSessions) (sender : String) (timestamp : UInt32) :
    (n.audience sender timestamp).Nodup := by
  have hkeys : n.registry.entries.Pairwise fun a b => a.1 ≠ b.1 :=
    List.pairwise_map.1 n.registry.nodup_keys
  rw [audience, List.Nodup, List.pairwise_map]
  refine (hkeys.filter _).imp_of_mem fun {a b} ha hb hne heq => hne ?_
  -- A number stands for one session, which has one peer.
  obtain ⟨s, hs, ha⟩ := h _ _ ((Table.mem_entries_iff _ _ _).1 (List.mem_filter.1 ha).1)
  obtain ⟨t, ht, hb⟩ := h _ _ ((Table.mem_entries_iff _ _ _).1 (List.mem_filter.1 hb).1)
  rw [heq, ht] at hs
  obtain rfl := Option.some.inj hs
  exact ha.symm.trans hb

end Node

end ChannelGossip
