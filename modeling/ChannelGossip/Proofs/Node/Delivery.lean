import ChannelGossip.Node

/-! # Delivery

Whatever a node queues, it changes nothing but the outboxes, which grow at their ends by exactly
what was queued to them, and the counters of what was sent.  Main statements:

* `Node.Delivers`   what it means that a node has only queued messages
* `Node.delivers_send`, `Node.delivers_offer`, `Node.delivers_relay`   the three ways to queue
* `Node.delivers_apply`   a reaction is noted first, and the rest is queueing -/

namespace ChannelGossip

/-! ## Outboxes -/

namespace Outbox

/-- What `append` adds comes after everything that was on its way. -/
@[simp] theorem contents_append (o : Outbox) (ms : List Message) :
    (o.append ms).contents = o.contents ++ ms := by
  -- The messages that make room move from `queue` to `taken`, which are next to each other.
  rw [contents, contents, append, List.reverse_append, List.reverse_reverse, List.append_assoc,
    List.append_assoc, List.take_append_drop]

/-- What `offer` queues comes after everything that was on its way. -/
@[simp] theorem contents_offer (o : Outbox) (ms : List Message) :
    (o.offer ms).contents = o.contents ++ o.accepted ms := by
  rw [contents, contents, offer, List.append_assoc]

/-- `send?` of nothing always succeeds, and changes nothing. -/
@[simp] theorem send?_nil (o : Outbox) : o.send? [] = some o := rfl

/-- `send?` succeeds as long as somebody reads. -/
theorem send?_of_isOpen {o : Outbox} (h : o.isOpen) (ms : List Message) :
    ∃ o', o.send? ms = some o' := by
  cases ms with
  | nil => exact ⟨o, rfl⟩
  | cons m ms => exact ⟨o.append (m :: ms), if_pos h⟩

/-- `send?` appends the messages, unless there are none. -/
theorem send?_eq_some {o o' : Outbox} {ms : List Message} (h : o.send? ms = some o') :
    (ms = [] ∧ o' = o) ∨ o' = o.append ms := by
  cases ms with
  | nil => exact .inl ⟨rfl, (Option.some.inj h).symm⟩
  | cons m ms =>
    by_cases hopen : o.isOpen
    · have happend : o.send? (m :: ms) = some (o.append (m :: ms)) := if_pos hopen
      exact .inr (Option.some.inj (h.symm.trans happend))
    · have hnone : o.send? (m :: ms) = none := if_neg hopen
      rw [hnone] at h
      cases h

end Outbox

/-! ## Sessions -/

/-- What a session knows about its peer. -/
def Session.knowledge (s : Session) :
    String × Option Init × Option GossipTimestampFilter × UInt64 :=
  (s.peer, s.init, s.filter, s.pongs)

/-- What `record` notes about a peer leaves its name. -/
theorem Session.peer_noted (s : Session) (note : Option PeerNote) :
    (note.elim s s.record).peer = s.peer := by
  cases note with
  | none => rfl
  | some note => cases note <;> rfl

/-- And it leaves the outbox. -/
theorem Session.outbox_noted (s : Session) (note : Option PeerNote) :
    (note.elim s s.record).outbox = s.outbox := by
  cases note with
  | none => rfl
  | some note => cases note <;> rfl

/-- A session to which the messages `ms` were queued and nothing else happened. -/
structure Session.Receives (s : Session) (ms : List Message) (s' : Session) : Prop where
  knowledge_eq : s'.knowledge = s.knowledge
  isOpen_eq : s'.outbox.isOpen = s.outbox.isOpen
  capacity_eq : s'.outbox.capacity = s.outbox.capacity
  contents_eq : s'.outbox.contents = s.outbox.contents ++ ms

namespace Session.Receives

variable {s s' s'' : Session} {ms ms' : List Message}

/-- Nothing was queued. -/
theorem refl (s : Session) : s.Receives [] s := ⟨rfl, rfl, rfl, (List.append_nil _).symm⟩

/-- What was queued first comes first. -/
theorem trans (h : s.Receives ms s') (h' : s'.Receives ms' s'') : s.Receives (ms ++ ms') s'' where
  knowledge_eq := h'.knowledge_eq.trans h.knowledge_eq
  isOpen_eq := h'.isOpen_eq.trans h.isOpen_eq
  capacity_eq := h'.capacity_eq.trans h.capacity_eq
  contents_eq := by rw [h'.contents_eq, h.contents_eq, List.append_assoc]

/-- What is sent by `send?` is queued. -/
theorem of_send? {outbox : Outbox} (h : s.outbox.send? ms = some outbox) :
    s.Receives ms { s with outbox } := by
  rcases Outbox.send?_eq_some h with h | h
  · obtain ⟨rfl, rfl⟩ := h
    exact refl s
  · subst h
    exact ⟨rfl, rfl, rfl, s.outbox.contents_append ms⟩

/-- What is `accepted` of an offer is queued. -/
theorem of_offer (s : Session) (ms : List Message) :
    s.Receives (s.outbox.accepted ms) { s with outbox := s.outbox.offer ms } :=
  ⟨rfl, rfl, rfl, s.outbox.contents_offer ms⟩

end Session.Receives

/-! ## Nodes -/

/-- The messages that were `queued` to the session with the given number. -/
def messagesTo (number : Nat) (queued : List Queued) : List Message :=
  (queued.filter (·.session = number)).map Queued.message

@[simp] theorem messagesTo_nil (number : Nat) : messagesTo number [] = [] := rfl

@[simp] theorem messagesTo_append (number : Nat) (queued queued' : List Queued) :
    messagesTo number (queued ++ queued') =
      messagesTo number queued ++ messagesTo number queued' := by
  simp [messagesTo]

theorem mem_messagesTo_iff {number : Nat} {m : Message} {queued : List Queued} :
    m ∈ messagesTo number queued ↔ ⟨number, m⟩ ∈ queued := by
  rw [messagesTo, List.mem_map]
  constructor
  · rintro ⟨q, hq, rfl⟩
    obtain ⟨hmem, hsession⟩ := List.mem_filter.1 hq
    obtain rfl : q.session = number := by simpa using hsession
    exact hmem
  · intro h
    exact ⟨_, List.mem_filter.2 ⟨h, by simp⟩, rfl⟩

/-- Of what is queued to one session, `messagesTo` has all for it. -/
@[simp] theorem messagesTo_map_self (number : Nat) (ms : List Message) :
    messagesTo number (ms.map (⟨number, ·⟩)) = ms := by
  simp [messagesTo, List.filter_map, Function.comp_def]

/-- Of what is queued to one session, `messagesTo` has nothing for another. -/
theorem messagesTo_map_of_ne {number number' : Nat} (h : number ≠ number') (ms : List Message) :
    messagesTo number' (ms.map (⟨number, ·⟩)) = [] := by
  simp [messagesTo, List.filter_map, Function.comp_def, h]

namespace Node

/-- `n'` is the node `n` once it has queued `queued` and done nothing else. -/
structure Delivers (n : Node) (queued : List Queued) (n' : Node) : Prop where
  config_eq : n'.config = n.config
  store_eq : n'.store = n.store
  registry_eq : n'.registry = n.registry
  length_eq : n'.sessions.length = n.sessions.length
  receives : ∀ (k : Nat) (s : Session), n.sessions[k]? = some s →
    ∃ s', n'.sessions[k]? = some s' ∧ s.Receives (messagesTo k queued) s'
  metrics_eq : n'.metrics = (n.countOut (queued.map Queued.message)).metrics

/-- `countOut` goes message by message. -/
theorem metrics_countOut_append (n : Node) (ms ms' : List Message) :
    (n.countOut (ms ++ ms')).metrics = ((n.countOut ms).countOut ms').metrics := by
  rw [countOut, List.foldl_append]
  rfl

/-- `countOut` depends on the metrics alone. -/
theorem metrics_countOut_congr {n n' : Node} (h : n'.metrics = n.metrics) (ms : List Message) :
    (n'.countOut ms).metrics = (n.countOut ms).metrics := by
  rw [countOut, countOut, h]

/-- `updateSession` changes one session and no other. -/
theorem getElem?_updateSession {n : Node} {number : Nat} {s : Session}
    (hs : n.sessions[number]? = some s) (session : Nat) (f : Session → Session) :
    (n.updateSession session f).sessions[number]? =
      some (if session = number then f s else s) := by
  simp only [updateSession, List.getElem?_modify, hs]
  split
  · rfl
  · rfl

namespace Delivers

variable {n n' n'' : Node} {queued queued' : List Queued}

/-- Nothing was queued. -/
theorem refl (n : Node) : n.Delivers [] n where
  config_eq := rfl
  store_eq := rfl
  registry_eq := rfl
  length_eq := rfl
  receives _ s h := ⟨s, h, .refl s⟩
  metrics_eq := rfl

/-- What was queued first was queued before the rest. -/
theorem trans (h : n.Delivers queued n') (h' : n'.Delivers queued' n'') :
    n.Delivers (queued ++ queued') n'' where
  config_eq := h'.config_eq.trans h.config_eq
  store_eq := h'.store_eq.trans h.store_eq
  registry_eq := h'.registry_eq.trans h.registry_eq
  length_eq := h'.length_eq.trans h.length_eq
  receives k s hs := by
    obtain ⟨s', hs', hreceives⟩ := h.receives k s hs
    obtain ⟨s'', hs'', hreceives'⟩ := h'.receives k s' hs'
    rw [messagesTo_append]
    exact ⟨s'', hs'', hreceives.trans hreceives'⟩
  metrics_eq := by
    rw [h'.metrics_eq, List.map_append, metrics_countOut_append]
    exact metrics_countOut_congr h.metrics_eq _

/-- Messages are queued to a session by changing it so that it `Receives` them and by counting
    them. -/
theorem of_receives {number : Nat} {s : Session} {f : Session → Session} {ms : List Message}
    (hs : n.sessions[number]? = some s) (h : s.Receives ms (f s)) :
    n.Delivers (ms.map (⟨number, ·⟩)) ((n.updateSession number f).countOut ms) where
  config_eq := rfl
  store_eq := rfl
  registry_eq := rfl
  length_eq := List.length_modify _ _ _
  receives k t ht := by
    refine ⟨_, getElem?_updateSession ht number f, ?_⟩
    by_cases hk : number = k
    · -- The session itself
      subst hk
      obtain rfl : s = t := Option.some.inj (hs.symm.trans ht)
      rw [messagesTo_map_self, if_pos rfl]
      exact h
    · -- Any other session
      rw [messagesTo_map_of_ne hk, if_neg hk]
      exact .refl t
  metrics_eq := by
    have hmap : (ms.map fun m => (⟨number, m⟩ : Queued)).map Queued.message = ms := by
      rw [List.map_map]
      exact List.map_id ms
    rw [hmap]
    rfl

end Delivers

/-- `send` queues messages to one session. -/
theorem delivers_send (n : Node) (number : Nat) (ms : List Message) :
    n.Delivers (n.send number ms).queued (n.send number ms).node := by
  unfold send
  cases hs : n.sessions[number]? with
  | none => exact .refl n
  | some s =>
    -- A closed outbox takes nothing, and nothing is counted.
    cases hsend : s.outbox.send? ms with
    | none => simpa only [hsend] using .refl n
    | some outbox =>
      simp only [hsend]
      exact .of_receives hs (.of_send? hsend)

/-- `send` of nothing changes nothing. -/
theorem send_nil {n : Node} {number : Nat} {s : Session} (hs : n.sessions[number]? = some s) :
    n.send number [] = ⟨n, [], .ok ()⟩ := by
  have hsessions :
      n.sessions.modify number (fun t => { t with outbox := s.outbox }) = n.sessions := by
    refine List.ext_getElem? fun k => ?_
    rw [List.getElem?_modify]
    split
    · rename_i hk
      rw [← hk, hs]
      rfl
    · simp
  simp only [send, hs, Outbox.send?_nil, updateSession, countOut, hsessions, List.map_nil,
    List.foldl_nil]

/-- `offer` queues messages to one session. -/
theorem delivers_offer (n : Node) (number : Nat) (ms : List Message) :
    n.Delivers (n.offer number ms).queued (n.offer number ms).node := by
  unfold offer
  cases hs : n.sessions[number]? with
  | none => exact .refl n
  | some s => exact .of_receives hs (.of_offer s ms)

/-- `relay` queues messages to the `audience`. -/
theorem delivers_relay (n : Node) (sender : String) (news : Relay) :
    n.Delivers (n.relay sender news).queued (n.relay sender news).node := by
  unfold relay
  -- The invariant of the loop over the audience: what was queued so far was delivered.
  suffices h : ∀ (audience : List Nat) (step : Step Unit), n.Delivers step.queued step.node →
      let last := audience.foldl (fun step number =>
        let next := step.node.offer number news.messages
        ⟨next.node, step.queued ++ next.queued, .ok ()⟩) step
      n.Delivers last.queued last.node from h _ _ (.refl n)
  intro audience
  induction audience with
  | nil =>
    intro step h
    exact h
  | cons number audience ih =>
    intro step h
    exact ih _ (h.trans (step.node.delivers_offer number news.messages))

/-- The node once the reaction `r` is noted, before anything is queued. -/
def noted (n : Node) (number : Nat) (r : Reaction) : Node :=
  { n with store := r.store }.updateSession number fun s => r.note.elim s s.record

/-- `noted` changes one session and no other. -/
theorem getElem?_noted {n : Node} {number : Nat} {s : Session}
    (hs : n.sessions[number]? = some s) (session : Nat) (r : Reaction) :
    (n.noted session r).sessions[number]? =
      some (if session = number then r.note.elim s s.record else s) :=
  getElem?_updateSession (n := { n with store := r.store }) hs session _

/-- `apply` for a reaction without news ends with sending the replies. -/
theorem apply_of_no_relay (n : Node) (number : Nat) {r : Reaction} (h : r.relay = none) :
    n.apply number r = (n.noted number r).send number r.replies := by
  unfold apply
  simp only [h]
  split
  · rename_i hnews _
    cases hnews
  · rfl

/-- After `noted`, all that `apply` does is queueing. -/
theorem delivers_apply (n : Node) (number : Nat) (r : Reaction) :
    (n.noted number r).Delivers (n.apply number r).queued (n.apply number r).node := by
  have hsend := (n.noted number r).delivers_send number r.replies
  unfold apply
  simp only
  split
  · exact hsend.trans (delivers_relay _ _ _)
  · exact hsend

end Node

end ChannelGossip
