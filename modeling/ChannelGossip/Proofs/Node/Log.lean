import ChannelGossip.Proofs.Node.Run

/-! # What a run queues

Replies are queued all together or not at all, and each offer of news queues the first few of them,
as many as find room.  Main statements:

* `Node.queuedIn`   everything that a run queues
* `Node.messagesTo_send`, `Node.queued_apply_of_relay`   what replies and news queue
* `Node.messagesTo_offerAll`   what offers of news queue to one session
* `Node.mem_messagesTo_offerAll`   what there is room for is queued
* `Node.mem_queued_apply`   nothing else is queued -/

namespace ChannelGossip.Node

variable {n : Node} {number target : Nat} {s : Session}

/-! ## Runs -/

/-- What is queued when something happens. -/
def queuedBy (n : Node) : Event → List Queued
  | .dispatch session m => (n.dispatch n.dispatcher session m).queued
  | _ => []

/-- Everything that is queued in a run of events. -/
def queuedIn (n : Node) : List Event → List Queued
  | [] => []
  | e :: events => n.queuedBy e ++ (n.after e).queuedIn events

theorem run_append (n : Node) (events events' : List Event) :
    n.run (events ++ events') = (n.run events).run events' :=
  List.foldl_append

/-- `queuedIn` a run is what is queued in its parts. -/
theorem queuedIn_append (n : Node) (events events' : List Event) :
    n.queuedIn (events ++ events') = n.queuedIn events ++ (n.run events).queuedIn events' := by
  induction events generalizing n with
  | nil => rfl
  | cons e events ih => rw [List.cons_append, queuedIn, queuedIn, run_cons, ih, List.append_assoc]

/-! ## Sending and offering -/

/-- `send` queues all messages or none. -/
theorem messagesTo_send (n : Node) (number target : Nat) (ms : List Message) :
    messagesTo target (n.send number ms).queued = [] ∨
      messagesTo target (n.send number ms).queued = ms := by
  unfold send
  split
  · exact .inl rfl
  · split
    · exact .inl rfl
    · by_cases hnumber : number = target
      · rw [hnumber]
        exact .inr (messagesTo_map_self target ms)
      · exact .inl (messagesTo_map_of_ne hnumber ms)

/-- `offer` queues the first few of the messages to the session. -/
theorem messagesTo_offer_self (n : Node) (target : Nat) (ms : List Message) :
    messagesTo target (n.offer target ms).queued <+: ms := by
  unfold offer
  split
  · exact List.nil_prefix
  · simp only [messagesTo_map_self, Outbox.accepted]
    split
    · exact List.take_prefix _ _
    · exact List.nil_prefix

/-- `offer` queues nothing to any other session. -/
theorem messagesTo_offer_of_ne (h : number ≠ target) (n : Node) (ms : List Message) :
    messagesTo target (n.offer number ms).queued = [] := by
  unfold offer
  split
  · rfl
  · exact messagesTo_map_of_ne h _

/-- `offer` leaves all other sessions as they are. -/
theorem getElem?_offer_of_ne (h : number ≠ target) (n : Node) (ms : List Message) :
    (n.offer number ms).node.sessions[target]? = n.sessions[target]? := by
  unfold offer
  split
  · rfl
  · exact (List.getElem?_modify ..).trans (by simp [h])

/-- `offer` adds to the outbox of the session. -/
theorem getElem?_offer_self (hs : n.sessions[target]? = some s) (ms : List Message) :
    (n.offer target ms).node.sessions[target]? =
      some { s with outbox := s.outbox.offer ms } := by
  unfold offer
  rw [hs]
  exact (getElem?_updateSession hs target _).trans (by rw [if_pos rfl])

/-- `offer` queues what there is room for. -/
theorem messagesTo_offer_of_isOpen (hs : n.sessions[target]? = some s) (hopen : s.outbox.isOpen)
    (ms : List Message) :
    messagesTo target (n.offer target ms).queued = ms.take s.outbox.room := by
  simp only [offer, hs, messagesTo_map_self, Outbox.accepted, if_pos hopen]

/-! ## News -/

/-- What is queued when the same messages are offered to one session after the other. -/
def offerAll (n : Node) (ms : List Message) : List Nat → List Queued
  | [] => []
  | number :: audience =>
    (n.offer number ms).queued ++ (n.offer number ms).node.offerAll ms audience

/-- `relay` is `offerAll` to the `audience`. -/
theorem queued_relay (n : Node) (sender : String) (news : Relay) :
    (n.relay sender news).queued =
      n.offerAll news.messages (n.audience sender news.timestamp) := by
  -- The loop keeps what was queued so far and goes on from the node as it is then.
  suffices h : ∀ (audience : List Nat) (step : Step Unit),
      (audience.foldl (fun step number =>
        let next := step.node.offer number news.messages
        (⟨next.node, step.queued ++ next.queued, .ok ()⟩ : Step Unit)) step).queued =
          step.queued ++ step.node.offerAll news.messages audience from h _ _
  intro audience
  induction audience with
  | nil =>
    intro step
    exact (List.append_nil _).symm
  | cons number audience ih =>
    intro step
    rw [List.foldl_cons, ih, offerAll, List.append_assoc]

/-- To one session a few of the messages are queued each time that `offerAll` comes to it. -/
theorem messagesTo_offerAll (n : Node) (target : Nat) (ms : List Message) (audience : List Nat) :
    ∃ parts : List (List Message), (∀ part ∈ parts, part <+: ms) ∧
      messagesTo target (n.offerAll ms audience) = parts.flatten := by
  induction audience generalizing n with
  | nil => exact ⟨[], List.forall_mem_nil _, rfl⟩
  | cons number audience ih =>
    obtain ⟨parts, hparts, hflatten⟩ := ih (n.offer number ms).node
    rw [offerAll, messagesTo_append, hflatten]
    -- It is the turn of this session or of another one.
    by_cases hnumber : number = target
    · subst hnumber
      exact ⟨_ :: parts, List.forall_mem_cons.2 ⟨n.messagesTo_offer_self number ms, hparts⟩, rfl⟩
    · rw [messagesTo_offer_of_ne hnumber]
      exact ⟨parts, hparts, rfl⟩

/-- `offerAll` queues nothing to a session outside the audience. -/
theorem messagesTo_offerAll_of_notMem {ms : List Message} {audience : List Nat}
    (h : target ∉ audience) : messagesTo target (n.offerAll ms audience) = [] := by
  induction audience generalizing n with
  | nil => rfl
  | cons number audience ih =>
    rw [List.mem_cons, not_or] at h
    obtain ⟨hnumber, htail⟩ := h
    rw [offerAll, messagesTo_append, messagesTo_offer_of_ne (Ne.symm hnumber), ih htail]
    rfl

/-- If nobody is in the audience twice then `offerAll` queues to each session the first few of the
    messages. -/
theorem messagesTo_offerAll_of_nodup (n : Node) (target : Nat) (ms : List Message)
    {audience : List Nat} (h : audience.Nodup) :
    messagesTo target (n.offerAll ms audience) <+: ms := by
  induction audience generalizing n with
  | nil => exact List.nil_prefix
  | cons number audience ih =>
    obtain ⟨hnotin, hnodup⟩ := List.nodup_cons.1 h
    rw [offerAll, messagesTo_append]
    by_cases hnumber : number = target
    · subst hnumber
      -- The session does not get its turn again.
      rw [messagesTo_offerAll_of_notMem hnotin, List.append_nil]
      exact n.messagesTo_offer_self number ms
    · rw [messagesTo_offer_of_ne hnumber, List.nil_append]
      exact ih _ hnodup

/-- `offerAll` queues what there is room for to every session of the audience. -/
theorem mem_messagesTo_offerAll {m : Message} {ms : List Message} {audience : List Nat}
    (h : target ∈ audience) (hs : n.sessions[target]? = some s) (hopen : s.outbox.isOpen)
    (hm : m ∈ ms.take s.outbox.room) : m ∈ messagesTo target (n.offerAll ms audience) := by
  induction audience generalizing n with
  | nil => cases h
  | cons number audience ih =>
    rw [offerAll, messagesTo_append]
    by_cases hnumber : number = target
    · subst hnumber
      rw [← messagesTo_offer_of_isOpen hs hopen] at hm
      exact List.mem_append_left _ hm
    · -- Until its turn comes the session stays as it is.
      have htail : target ∈ audience := (List.mem_cons.1 h).resolve_left (Ne.symm hnumber)
      rw [← getElem?_offer_of_ne hnumber n ms] at hs
      exact List.mem_append_right _ (ih htail hs)

/-! ## Handling -/

/-- `apply` for a reaction that only passes news on is `relay`. -/
theorem apply_of_relay {r : Reaction} {news : Relay} (hs : n.sessions[number]? = some s)
    (hnote : r.note = none) (hreplies : r.replies = []) (hrelay : r.relay = some news) :
    let relayed := ({ n with store := r.store } : Node).relay s.peer news
    n.apply number r = ⟨relayed.node, relayed.queued, .ok ()⟩ := by
  have hnoted : n.noted number r = { n with store := r.store } := by
    have hid : (fun t : Session => t) = id := rfl
    simp only [noted, updateSession, hnote, Option.elim_none, hid, List.modify_id]
  have hsend : (n.noted number r).send number r.replies =
      ⟨{ n with store := r.store }, [], .ok ()⟩ := by
    rw [hreplies, hnoted]
    exact send_nil hs
  unfold noted at hsend
  simp only [apply, hsend, hrelay, hs, List.nil_append]

/-- Such a reaction queues what `offerAll` does. -/
theorem queued_apply_of_relay {r : Reaction} {news : Relay} (hs : n.sessions[number]? = some s)
    (hnote : r.note = none) (hreplies : r.replies = []) (hrelay : r.relay = some news) :
    (n.apply number r).queued =
      ({ n with store := r.store }).offerAll news.messages (n.audience s.peer news.timestamp) := by
  rw [apply_of_relay hs hnote hreplies hrelay]
  exact queued_relay _ _ _

/-- `apply` queues nothing about a message from a session that there is not. -/
theorem queued_apply_of_none (h : n.sessions[number]? = none) (r : Reaction) :
    (n.apply number r).queued = [] := by
  have hnoted : (n.noted number r).sessions[number]? = none := by
    simp [noted, updateSession, h]
  have hsend : (n.noted number r).send number r.replies =
      ⟨n.noted number r, [], .error (.internal (.noSession number))⟩ := by
    simp only [send, hnoted]
  unfold noted at hsend
  simp only [apply, hsend]

/-- `apply` queues nothing but replies and news. -/
theorem mem_queued_apply {r : Reaction} {q : Queued} (h : q ∈ (n.apply number r).queued) :
    q.message ∈ r.replies ∨ ∃ news, r.relay = some news ∧ q.message ∈ news.messages := by
  have hreplies : ∀ q ∈ ((n.noted number r).send number r.replies).queued,
      q.message ∈ r.replies := by
    intro q hq
    have hmem := mem_messagesTo_iff.2 hq
    obtain hnil | hall := (n.noted number r).messagesTo_send number q.session r.replies
    · rw [hnil] at hmem
      cases hmem
    · rwa [hall] at hmem
  unfold apply at h
  simp only at h
  split at h
  · rename_i news s hresult hrelay hs
    obtain h | h := List.mem_append.1 h
    · exact .inl (hreplies q h)
    · -- Of the news each session gets the first few, if any.
      rw [queued_relay] at h
      obtain ⟨parts, hparts, hflatten⟩ := messagesTo_offerAll
        ((n.noted number r).send number r.replies).node q.session news.messages
        (((n.noted number r).send number r.replies).node.audience s.peer news.timestamp)
      have hmem := mem_messagesTo_iff.2 h
      unfold noted at hflatten
      rw [hflatten] at hmem
      obtain ⟨part, hpart, hmem⟩ := List.mem_flatten.1 hmem
      exact .inr ⟨news, hrelay, (hparts part hpart).subset hmem⟩
  · exact .inl (hreplies q h)

end ChannelGossip.Node
