import ChannelGossip.Proofs.Node.News
import ChannelGossip.Proofs.Store.Introduction

/-! # Who is told about a channel

Replies announce a channel before they tell of its updates, and so does the news of its first
update.  News of a later update goes out alone.  A session that gets it without ever having got an
announcement is one that was passed over when the first update was passed on.  Main statements:

* `Reaction.Introduces`   replies and news of either sort
* `Node.Reacts.introduces`   all reactions are of these sorts
* `Node.exists_firstUpdate`   a channel with updates once got the first of them
* `Node.announced_or_passedOver`   who is told of an update -/

namespace ChannelGossip

/-! ## Reactions -/

/-- What a reaction to `m` sends about a channel: replies that introduce it, or news that introduce
    it unless they are of `m` alone and the channel has updates already. -/
structure Reaction.Introduces (r : Reaction) (s : Store) (m : Message) (id : ShortChannelId) :
    Prop where
  replies : Introduced id r.replies
  news : ∀ news, r.relay = some news → r.note = none ∧ r.replies = [] ∧
    (Introduced id news.messages ∨ news.messages = [m] ∧ s.updates id ≠ [])

/-- A reaction that only replies. -/
theorem Reaction.Introduces.of_replies {r : Reaction} {s : Store} {m : Message}
    {id : ShortChannelId} (hreplies : Introduced id r.replies) (h : r.relay = none) :
    r.Introduces s m id where
  replies := hreplies
  news news hnews := by
    rw [h] at hnews
    cases hnews

namespace Node

variable {n : Node} {m : Message} {id : ShortChannelId} {P : Message → Prop}

/-- News of an update introduce its channel, unless they are of the update alone and the channel has
    updates already. -/
theorem introduced_news {u : Recorded ChannelUpdate} {r : ChannelRecord}
    (hstore : n.store.Holds n.config.chain P)
    (hfiling : m.filing? n.config.chain = some (.update u))
    (hr : n.store.channels.find? u.contents.shortChannelId = some r) :
    let ms := if r.updates = [] then [r.announcement.message, m] else [m]
    Introduced id ms ∨ ms = [m] ∧ n.store.updates id ≠ [] := by
  obtain ⟨hrecord, -⟩ := Message.filing?_eq_update_iff.1 hfiling
  obtain ⟨hcontents, -⟩ := Message.record_eq_ok_iff.1 hrecord
  by_cases hid : u.contents.shortChannelId = id
  · subst hid
    -- With the first update the announcement goes out.
    by_cases hfirst : r.updates = []
    · simp only [if_pos hfirst]
      exact .inl (.cons (hstore.announces hr))
    · refine .inr ⟨if_neg hfirst, ?_⟩
      rw [Store.updates, hr]
      exact hfirst
  · -- News of one channel is none of another.
    have hother : ¬m.Updates id := by
      rintro ⟨u', hu', hid'⟩
      obtain rfl := Except.ok.inj (hcontents.symm.trans hu')
      exact hid hid'
    have hannouncement : ¬r.announcement.message.Updates id :=
      Message.not_updates_of_kind? (hstore.announces hr).kind?_eq (by decide)
    refine .inl (.of_no_updates fun x hx => ?_)
    split at hx
    · obtain rfl | rfl := List.mem_pair.1 hx
      · exact hannouncement
      · exact hother
    · rw [List.mem_singleton.1 hx]
      exact hother

/-- Messages that `toMessage` makes of other contents introduce every channel. -/
theorem introduced_map_toMessage {α : Type} [Contents α] [LawfulContents α]
    (h : Contents.kind α ≠ .channelUpdate) (as : List α) :
    Introduced id (as.map Contents.toMessage) := by
  refine .of_no_updates fun m hm => ?_
  obtain ⟨a, -, rfl⟩ := List.mem_map.1 hm
  exact Message.not_updates_toMessage a h

/-- Every reaction of `Reacts` introduces every channel, unless it passes on the message alone and
    the channel has updates already. -/
theorem Reacts.introduces {r : Reaction} (h : n.Reacts m r)
    (hstore : n.store.Holds n.config.chain P) : r.Introduces n.store m id := by
  -- Two of the reactions are news, three answer from the store, and the others tell of no updates.
  cases h with
  | files old => exact .of_replies .nil rfl
  | update filing known newer =>
    refine ⟨.nil, fun news hnews => ⟨rfl, rfl, ?_⟩⟩
    obtain rfl := Option.some.inj hnews
    exact introduced_news hstore filing known
  | node filing newer =>
    refine ⟨.nil, fun news hnews => ⟨rfl, rfl, .inl ?_⟩⟩
    obtain rfl := Option.some.inj hnews
    exact .of_no_updates (List.forall_mem_singleton.2
      (Message.not_updates_of_kind? (Message.kind?_of_filing? filing) nofun))
  | init contents => exact .of_replies .nil rfl
  | pong kind => exact .of_replies .nil rfl
  | ping contents answers_eq => exact .of_replies (introduced_map_toMessage (by decide) _) rfl
  | rangeQuery contents own parts_eq =>
    exact .of_replies (introduced_map_toMessage (by decide) _) rfl
  | foreignRangeQuery contents foreign =>
    exact .of_replies (introduced_map_toMessage (by decide) [_]) rfl
  | idQuery contents own ids_eq =>
    exact .of_replies
      ((hstore.introduced_about [] _).append (introduced_map_toMessage (by decide) [_])) rfl
  | foreignIdQuery contents foreign =>
    exact .of_replies (introduced_map_toMessage (by decide) [_]) rfl
  | filter contents own => exact .of_replies (hstore.introduced_matching _) rfl

/-- What `apply` queues to `target` is of the same sort as the reaction. -/
theorem introduced_apply {r : Reaction} (h : r.Introduces n.store m id) (session target : Nat) :
    let ms := messagesTo target (n.apply session r).queued
    Introduced id ms ∨ (∀ u ∈ ms, u = m) ∧ n.store.updates id ≠ [] := by
  intro ms
  cases hrelay : r.relay with
  | none =>
    have hms : ms = messagesTo target ((n.noted session r).send session r.replies).queued := by
      simp only [ms, apply_of_no_relay n session hrelay]
    rw [hms]
    obtain hsent | hsent := (n.noted session r).messagesTo_send session target r.replies
    · rw [hsent]
      exact .inl .nil
    · rw [hsent]
      exact .inl h.replies
  | some news =>
    obtain ⟨hnote, hreplies, hnews⟩ := h.news news hrelay
    cases hs : n.sessions[session]? with
    | none =>
      simp only [ms, queued_apply_of_none hs]
      exact .inl .nil
    | some s =>
      -- Only parts of the news are queued, each from the front.
      obtain ⟨parts, hparts, hflatten⟩ := messagesTo_offerAll { n with store := r.store } target
        news.messages (n.audience s.peer news.timestamp)
      have hms : ms = parts.flatten := by
        simp only [ms, queued_apply_of_relay hs hnote hreplies hrelay, hflatten]
      rw [hms]
      obtain hnews | ⟨halone, hupdates⟩ := hnews
      · exact .inl (.flatten fun part hpart => hnews.of_isPrefix (hparts part hpart))
      · refine .inr ⟨fun u hu => ?_, hupdates⟩
        obtain ⟨part, hpart, hu⟩ := List.mem_flatten.1 hu
        have hmem : u ∈ news.messages := (hparts part hpart).subset hu
        rw [halone] at hmem
        exact List.mem_singleton.1 hmem

/-- What `dispatch` queues to `target` introduces every channel, unless it is the message alone and
    the channel has updates already. -/
theorem introduced_dispatch (hstore : n.store.Holds n.config.chain P) (session : Nat) (m : Message)
    (target : Nat) (id : ShortChannelId) :
    let ms := messagesTo target (n.dispatch n.dispatcher session m).queued
    Introduced id ms ∨ (∀ u ∈ ms, u = m) ∧ n.store.updates id ≠ [] := by
  obtain ⟨-, hqueued⟩ | ⟨r, hreacts, -, hqueued⟩ := n.quiet_or_reacts session m
  · rw [hqueued]
    exact .inl .nil
  · rw [hqueued]
    exact introduced_apply (hreacts.introduces hstore) session target

end Node

/-! ## The first update of a channel -/

/-- The message `m` is filed as the first update of a channel that is stored. -/
structure Store.IsFirstUpdate (chain : ChainHash) (s : Store) (m : Message)
    (u : Recorded ChannelUpdate) : Prop where
  filing?_eq : m.filing? chain = some (.update u)
  exists_channel : ∃ r, s.channels.find? u.contents.shortChannelId = some r ∧ r.updates = []

/-- There is nothing stored that an update with `IsFirstUpdate` would have to be newer than. -/
theorem Store.IsFirstUpdate.newer {chain : ChainHash} {s : Store} {m : Message}
    {u : Recorded ChannelUpdate} {r : ChannelRecord} (h : s.IsFirstUpdate chain m u)
    (hr : s.channels.find? u.contents.shortChannelId = some r) :
    ∀ current ∈ r.newest u.contents.direction,
      current.contents.timestamp < u.contents.timestamp := by
  obtain ⟨r', hr', hupdates⟩ := h.exists_channel
  obtain rfl := Option.some.inj (hr'.symm.trans hr)
  intro current hcurrent
  rw [ChannelRecord.updates_eq_nil_iff.1 hupdates] at hcurrent
  cases hcurrent

/-- A channel that gets updates by `fileMessage` gets its first one. -/
theorem Store.exists_isFirstUpdate {chain : ChainHash} {s : Store} {m : Message}
    {id : ShortChannelId} (h : s.updates id = []) (h' : (s.fileMessage chain m).updates id ≠ []) :
    ∃ u, s.IsFirstUpdate chain m u ∧ u.contents.shortChannelId = id := by
  cases hr : s.channels.find? id with
  | none =>
    -- A channel that comes in has no updates yet.
    refine absurd ?_ h'
    rw [updates, find?_fileMessage_of_none hr]
    cases m.announcementOf? chain id <;> rfl
  | some r =>
    obtain ⟨r', hr', -, hnewest⟩ := find?_fileMessage_of_some chain m hr
    rw [updates, hr] at h
    rw [updates, hr', Option.map_some, Option.getD_some, ne_eq, ChannelRecord.updates_eq_nil_iff,
      not_forall] at h'
    -- From some end there is an update now where there was none.
    obtain ⟨d, hd⟩ := h'
    rw [hnewest d, ChannelRecord.updates_eq_nil_iff.1 h d] at hd
    cases hu : m.updateOf? chain id d with
    | none =>
      rw [hu] at hd
      exact absurd rfl hd
    | some u =>
      obtain ⟨hfiling, rfl, -⟩ := Message.updateOf?_eq_some_iff.1 hu
      exact ⟨u, ⟨hfiling, r, hr, h⟩, rfl⟩

namespace Node

variable {n : Node} {m : Message} {P : Message → Prop}

/-- A channel that has updates after a run got the first of them in it. -/
theorem exists_firstUpdate (config : Config) {past : List Event} {id : ShortChannelId}
    (h : ((start config).run past).store.updates id ≠ []) :
    ∃ before session m after u, past = before ++ .dispatch session m :: after ∧
      ((start config).run before).store.IsFirstUpdate config.chain m u ∧
      u.contents.shortChannelId = id := by
  induction past using List.reverseRecOn with
  | nil => exact absurd rfl h
  | append_singleton past e ih =>
    by_cases hbefore : ((start config).run past).store.updates id = []
    · -- The last event made the difference.
      rw [run_append, run_cons, run_nil, after_store, run_config] at h
      cases e with
      | dispatch session m =>
        obtain ⟨u, hfirst, hid⟩ := Store.exists_isFirstUpdate hbefore h
        exact ⟨past, session, m, [], u, rfl, hfirst, hid⟩
      | _ => exact absurd hbefore h
    · obtain ⟨before, session, m, after, u, rfl, hfirst, hid⟩ := ih hbefore
      exact ⟨before, session, m, after ++ [e], u, by rw [List.append_assoc]; rfl, hfirst, hid⟩

/-- News of the given time from `session` get through to `target`: that is the current session of
    another peer, which has asked for such news, and there is room for them. -/
def Hears (n : Node) (session : Nat) (timestamp : UInt32) (target : Nat) : Prop :=
  ∃ sender s, n.sessions[session]? = some sender ∧ n.sessions[target]? = some s ∧
    target ∈ n.audience sender.peer timestamp ∧ s.outbox.isOpen ∧ 0 < s.outbox.room

/-- The first update of a channel was passed on, and `target` is none of those that heard it. -/
def PassedOver (config : Config) (past : List Event) (id : ShortChannelId) (target : Nat) : Prop :=
  ∃ before session m after u, past = before ++ .dispatch session m :: after ∧
    ((start config).run before).store.IsFirstUpdate config.chain m u ∧
    u.contents.shortChannelId = id ∧
    ¬((start config).run before).Hears session u.contents.timestamp target

/-- A channel is announced to `target` with its first update, if it gets through by `Hears`. -/
theorem announced_of_isFirstUpdate {u : Recorded ChannelUpdate} {session target : Nat}
    (hstore : n.store.Holds n.config.chain P) (hfirst : n.store.IsFirstUpdate n.config.chain m u)
    (h : n.Hears session u.contents.timestamp target) :
    ∃ a ∈ messagesTo target (n.queuedBy (.dispatch session m)),
      a.Announces u.contents.shortChannelId := by
  obtain ⟨sender, s, hsender, hs, haudience, hopen, hroom⟩ := h
  obtain ⟨r, hr, hupdates⟩ := hfirst.exists_channel
  have hnews := news?_of_update hfirst.filing?_eq hr (hfirst.newer hr)
  rw [if_pos hupdates] at hnews
  refine ⟨r.announcement.message, ?_, hstore.announces hr⟩
  rw [queuedBy_of_news? hsender hnews]
  obtain ⟨room, hroom⟩ := Nat.exists_eq_succ_of_ne_zero (Nat.ne_of_gt hroom)
  refine mem_messagesTo_offerAll haudience hs hopen ?_
  rw [hroom]
  exact List.mem_cons_self

/-- Whenever an update of a channel is queued to `target`, an announcement of the channel was queued
    to it before that, unless the update is news and `target` was `PassedOver` when the channel's
    first update was passed on. -/
theorem announced_or_passedOver (config : Config) (past : List Event) (e : Event) (target : Nat)
    (before after : List Message) (u : Message) (id : ShortChannelId)
    (hqueued : messagesTo target (((start config).run past).queuedBy e) = before ++ u :: after)
    (hupdates : u.Updates id) :
    (∃ a ∈ messagesTo target ((start config).queuedIn past) ++ before, a.Announces id) ∨
      e.message? = some u ∧ PassedOver config past id target := by
  have hstore : ∀ events, ((start config).run events).store.Holds
      ((start config).run events).config.chain fun _ => True := by
    intro events
    rw [run_config]
    exact holds_run config fun _ _ _ _ => trivial
  cases e with
  | dispatch session m =>
    -- Either what was queued announces the channel first, or it is the update alone and the channel
    -- had updates.
    obtain hintroduced | ⟨halone, hknown⟩ :=
      introduced_dispatch (hstore past) session m target id
    · obtain ⟨a, ha, hannounces⟩ := hintroduced before u after hqueued hupdates
      exact .inl ⟨a, List.mem_append_right _ ha, hannounces⟩
    · obtain rfl : u = m := by
        refine halone u ?_
        show u ∈ messagesTo target (((start config).run past).queuedBy (.dispatch session m))
        rw [hqueued]
        exact List.mem_append_right _ List.mem_cons_self
      obtain ⟨past₁, session₁, m₁, past₂, u₁, rfl, hfirst, rfl⟩ := exists_firstUpdate config hknown
      by_cases hhears : ((start config).run past₁).Hears session₁ u₁.contents.timestamp target
      · -- Then the announcement is among what was queued at that time.
        left
        have hfirst' : ((start config).run past₁).store.IsFirstUpdate
            ((start config).run past₁).config.chain m₁ u₁ := by
          rw [run_config]
          exact hfirst
        obtain ⟨a, ha, hannounces⟩ := announced_of_isFirstUpdate (hstore past₁) hfirst' hhears
        refine ⟨a, List.mem_append_left _ ?_, hannounces⟩
        rw [queuedIn_append, queuedIn, messagesTo_append, messagesTo_append]
        exact List.mem_append_right _ (List.mem_append_left _ ha)
      · exact .inr ⟨rfl, past₁, session₁, m₁, past₂, u₁, rfl, hfirst, rfl, hhears⟩
  | _ => simp [queuedBy] at hqueued

/-- A session whose filter asks for the time of a channel's first update gets the announcement
    with it. -/
theorem announced_with_first_update :
    let config := Config.ofChain .bitcoin
    let channel := ChannelAnnouncement.blank .bitcoin ⟨5 * 0x10000000000⟩
    let update := ChannelUpdate.blank channel 1500 0
    let past : List Event :=
      [.openSession "teller" 8, .openSession "listener" 8,
       .dispatch 1 (Contents.toMessage (⟨.bitcoin, 1000, 1000⟩ : GossipTimestampFilter)),
       .dispatch 0 (Contents.toMessage channel)]
    messagesTo 1 (((start config).run past).queuedBy (.dispatch 0 (Contents.toMessage update))) =
        [Contents.toMessage channel] ++ Contents.toMessage update :: [] ∧
      ∃ a ∈ messagesTo 1 ((start config).queuedIn past) ++ [Contents.toMessage channel],
        a.Announces channel.shortChannelId := by
  intro config channel update past
  have hqueued : messagesTo 1
      (((start config).run past).queuedBy (.dispatch 0 (Contents.toMessage update))) =
        [Contents.toMessage channel] ++ Contents.toMessage update :: [] := by
    decide +kernel
  refine ⟨hqueued, ?_⟩
  obtain h | ⟨-, before, session, m, after, u, hpast, hfirst, -⟩ :=
    announced_or_passedOver config past (.dispatch 0 (Contents.toMessage update)) 1 _ _ _
      channel.shortChannelId hqueued ⟨update, Message.contents_toMessage update, rfl⟩
  · exact h
  · -- No update came before this one.
    have hkind : m.kind? = some .channelUpdate := Message.kind?_of_filing? hfirst.filing?_eq
    have hm : .dispatch session m ∈ past := hpast ▸ List.mem_append_right _ List.mem_cons_self
    simp only [past, List.mem_cons, List.not_mem_nil, reduceCtorEq, Event.dispatch.injEq,
      or_false, false_or] at hm
    obtain ⟨-, rfl⟩ | ⟨-, rfl⟩ := hm
    · exact absurd hkind (by decide)
    · exact absurd hkind (by decide)

/-- A session whose filter does not ask for the time of a channel's first update gets a later one
    without any announcement. -/
theorem update_without_announcement :
    let config := Config.ofChain .bitcoin
    let channel := ChannelAnnouncement.blank .bitcoin ⟨5 * 0x10000000000⟩
    let first := ChannelUpdate.blank channel 5000 0
    let second := ChannelUpdate.blank channel 1500 1
    let past : List Event :=
      [.openSession "teller" 8, .openSession "listener" 8,
       .dispatch 1 (Contents.toMessage (⟨.bitcoin, 1000, 1000⟩ : GossipTimestampFilter)),
       .dispatch 0 (Contents.toMessage channel), .dispatch 0 (Contents.toMessage first)]
    messagesTo 1 (((start config).run past).queuedBy (.dispatch 0 (Contents.toMessage second))) =
        [Contents.toMessage second] ∧
      (Contents.toMessage second).Updates channel.shortChannelId ∧
      messagesTo 1 ((start config).queuedIn past) = [] ∧
      ∀ m, .dispatch 1 m ∈ past → ¬m.Announces channel.shortChannelId := by
  intro config channel first second past
  refine ⟨by decide +kernel, ⟨second, Message.contents_toMessage second, rfl⟩, by decide +kernel,
    fun m hm hannounces => ?_⟩
  simp only [past, List.mem_cons, List.not_mem_nil, reduceCtorEq, Event.dispatch.injEq,
    Nat.one_ne_zero, false_and, or_false, false_or, true_and] at hm
  subst hm
  exact absurd hannounces.kind?_eq (by decide)

end Node

end ChannelGossip
