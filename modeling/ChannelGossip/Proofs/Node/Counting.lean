import ChannelGossip.Proofs.Metrics
import ChannelGossip.Proofs.Node.Sessions

/-! # Counting

A node counts what it queues and nothing else, and what it has counted before has no bearing on
what it does.  Main statements:

* `Node.dispatch_withMetrics`   handling a message in a node that has counted something else
* `Node.queuedIn_withMetrics`, `Node.run_withMetrics`   the same of a run
* `Metrics.total_countSent`, `Metrics.get_countSent`   how many messages were counted, and how many
  of each name
* `Node.contents_run_dispatch`   what is on its way to a session while messages are handled -/

namespace ChannelGossip

namespace Metrics

/-- The metrics after messages have been queued. -/
def countSent (t : Metrics) (ms : List Message) : Metrics :=
  ms.foldl (fun t m => t.increment .messagesOut [("type", m.name)]) t

/-- `countSent` goes message by message. -/
theorem countSent_append (t : Metrics) (ms ms' : List Message) :
    t.countSent (ms ++ ms') = (t.countSent ms).countSent ms' :=
  List.foldl_append

/-- `countSent` changes no counter but that of queued messages. -/
theorem counter_countSent {name : CounterName} (h : name ≠ .messagesOut) (t : Metrics)
    (ms : List Message) : (t.countSent ms).counter name = t.counter name := by
  induction ms generalizing t with
  | nil => rfl
  | cons m ms ih =>
    have hhead := t.counter_add .messagesOut name [("type", m.name)] 1
    rw [if_neg h] at hhead
    exact (ih _).trans hhead

/-- `countSent` counts all queued messages; the sum wraps at 2^64. -/
theorem total_countSent (t : Metrics) (ms : List Message) :
    (t.countSent ms).messagesOut.total = t.messagesOut.total + .ofNat ms.length := by
  induction ms generalizing t with
  | nil => exact (add_zero _).symm
  | cons m ms ih =>
    have htail := ih (t.increment .messagesOut [("type", m.name)])
    -- The first message counts one, whatever its name.
    have hhead : (t.increment .messagesOut [("type", m.name)]).messagesOut.total =
        t.messagesOut.total + 1 := Counter.total_add _ _ _
    rw [hhead, add_assoc] at htail
    rw [List.length_cons, Nat.add_comm, UInt64.ofNat_add]
    exact htail

/-- `countSent` counts each message under its name. -/
theorem get_countSent (t : Metrics) (ms : List Message) (labels : Labels) :
    ((t.countSent ms).counter .messagesOut).get labels =
      (t.counter .messagesOut).get labels +
        .ofNat (ms.countP fun m => labels = [("type", m.name)]) := by
  induction ms generalizing t with
  | nil => exact (add_zero _).symm
  | cons m ms ih =>
    have hhead : ((t.increment .messagesOut [("type", m.name)]).counter .messagesOut).get labels =
        (t.counter .messagesOut).get labels + if labels = [("type", m.name)] then 1 else 0 := by
      rw [increment, counter_add, if_pos rfl, Counter.get_add]
      simp only [Labels.sorted_singleton_eq_iff]
      split
      · rfl
      · exact (add_zero _).symm
    have htail := ih (t.increment .messagesOut [("type", m.name)])
    rw [hhead, add_assoc] at htail
    refine htail.trans (congrArg _ ?_)
    rw [List.countP_cons, UInt64.ofNat_add, add_comm]
    by_cases hlabels : labels = [("type", m.name)]
    · simp [hlabels]
    · simp [hlabels]

/-- `countSent` observes no durations. -/
@[simp] theorem durations_countSent (t : Metrics) (ms : List Message) :
    (t.countSent ms).durations = t.durations := by
  induction ms generalizing t with
  | nil => rfl
  | cons m ms ih => exact ih _

end Metrics

/-! ## Nodes that have counted something else -/

/-- The node with `t` as what it has counted. -/
def Node.withMetrics (n : Node) (t : Metrics) : Node := { n with metrics := t }

/-- The step as a node takes it that has counted `t` before. -/
def Step.withMetrics {α : Type} (step : Step α) (t : Metrics) : Step α :=
  ⟨step.node.withMetrics (t.countSent (step.queued.map Queued.message)), step.queued, step.result⟩

namespace Node

variable {n : Node} {number : Nat} {s : Session}

/-- What is queued to one session is counted message by message. -/
private theorem map_message_map (number : Nat) (ms : List Message) :
    (ms.map (⟨number, ·⟩ : Message → Queued)).map Queued.message = ms := by
  rw [List.map_map]
  exact List.map_id ms

/-- `send` does not depend on what has been counted. -/
theorem send_withMetrics (n : Node) (t : Metrics) (number : Nat) (ms : List Message) :
    (n.withMetrics t).send number ms = (n.send number ms).withMetrics t := by
  have hsessions : (n.withMetrics t).sessions = n.sessions := rfl
  unfold send
  rw [hsessions]
  cases n.sessions[number]? with
  | none => rfl
  | some s =>
    -- Whether there is room is a matter of the outbox.
    cases hsend : s.outbox.send? ms with
    | none => simp only [hsend]; rfl
    | some outbox =>
      simp only [hsend, Step.withMetrics, map_message_map]
      rfl

/-- `offer` does not depend on what has been counted. -/
theorem offer_withMetrics (n : Node) (t : Metrics) (number : Nat) (ms : List Message) :
    (n.withMetrics t).offer number ms = (n.offer number ms).withMetrics t := by
  have hsessions : (n.withMetrics t).sessions = n.sessions := rfl
  unfold offer
  rw [hsessions]
  cases n.sessions[number]? with
  | none => rfl
  | some s =>
    simp only [Step.withMetrics, map_message_map]
    rfl

/-- `relay` does not depend on what has been counted. -/
theorem relay_withMetrics (n : Node) (t : Metrics) (sender : String) (news : Relay) :
    (n.withMetrics t).relay sender news = (n.relay sender news).withMetrics t := by
  have haudience :
      (n.withMetrics t).audience sender news.timestamp = n.audience sender news.timestamp := rfl
  unfold relay
  rw [haudience]
  -- The loop goes on from the node as it is then, with what has been counted so far.
  suffices h : ∀ (audience : List Nat) (step : Step Unit),
      audience.foldl (fun step number =>
        let next := step.node.offer number news.messages
        (⟨next.node, step.queued ++ next.queued, .ok ()⟩ : Step Unit)) (step.withMetrics t) =
      (audience.foldl (fun step number =>
        let next := step.node.offer number news.messages
        (⟨next.node, step.queued ++ next.queued, .ok ()⟩ : Step Unit)) step).withMetrics t from
    h _ ⟨n, [], .ok ()⟩
  intro audience
  induction audience with
  | nil => exact fun _ => rfl
  | cons number audience ih =>
    intro step
    rw [List.foldl_cons, List.foldl_cons, ← ih]
    congr 1
    simp only [Step.withMetrics, offer_withMetrics, List.map_append, Metrics.countSent_append]

/-- `apply` does not depend on what has been counted. -/
theorem apply_withMetrics (n : Node) (t : Metrics) (number : Nat) (r : Reaction) :
    (n.withMetrics t).apply number r = (n.apply number r).withMetrics t := by
  have hsend := (n.noted number r).send_withMetrics t number r.replies
  have hsessions : (n.withMetrics t).sessions = n.sessions := rfl
  unfold apply
  simp only
  change ((n.withMetrics t).noted number r).send number r.replies = _ at hsend
  unfold noted at hsend
  simp only [hsend]
  rw [hsessions]
  simp only [Step.withMetrics]
  split
  · simp only [relay_withMetrics, List.map_append, Metrics.countSent_append, Step.withMetrics]
  · rfl

/-- `dispatch` does not depend on what has been counted. -/
theorem dispatch_withMetrics (n : Node) (t : Metrics) (number : Nat) (m : Message) :
    (n.withMetrics t).dispatch (n.withMetrics t).dispatcher number m =
      (n.dispatch n.dispatcher number m).withMetrics t := by
  have hdispatcher : (n.withMetrics t).dispatcher = n.dispatcher := rfl
  have hstore : (n.withMetrics t).store = n.store := rfl
  unfold dispatch
  rw [hdispatcher, hstore]
  cases m.kind? with
  | none =>
    simp only
    split <;> rfl
  | some kind =>
    simp only [find?_dispatcher]
    -- What the service does is a matter of the store and the message.
    cases (n.serviceOf kind).react n.store m with
    | error e => rfl
    | ok r =>
      simp only [apply_withMetrics]
      rfl

/-- `dispatch` counts all that it queues, and nothing else. -/
theorem metrics_dispatch (n : Node) (number : Nat) (m : Message) :
    let step := n.dispatch n.dispatcher number m
    step.node.metrics = n.metrics.countSent (step.queued.map Queued.message) :=
  congrArg (·.node.metrics) (n.dispatch_withMetrics n.metrics number m)

/-! ## Runs of nodes that have counted something else -/

theorem queuedBy_withMetrics (n : Node) (t : Metrics) (e : Event) :
    (n.withMetrics t).queuedBy e = n.queuedBy e := by
  cases e with
  | dispatch session m => rw [queuedBy, dispatch_withMetrics]; rfl
  | _ => rfl

theorem after_withMetrics (n : Node) (t : Metrics) (e : Event) :
    (n.withMetrics t).after e =
      (n.after e).withMetrics (t.countSent ((n.queuedBy e).map Queued.message)) := by
  cases e with
  | dispatch session m => exact congrArg Step.node (n.dispatch_withMetrics t session m)
  | _ => rfl

/-- What a run queues does not depend on what has been counted. -/
theorem queuedIn_withMetrics (n : Node) (t : Metrics) (events : List Event) :
    (n.withMetrics t).queuedIn events = n.queuedIn events := by
  induction events generalizing n t with
  | nil => rfl
  | cons e events ih => rw [queuedIn, queuedIn, queuedBy_withMetrics, after_withMetrics, ih]

/-- Nor does what a run leads to, but for the metrics. -/
theorem run_withMetrics (n : Node) (t : Metrics) (events : List Event) :
    (n.withMetrics t).run events =
      (n.run events).withMetrics (t.countSent ((n.queuedIn events).map Queued.message)) := by
  induction events generalizing n t with
  | nil => rfl
  | cons e events ih =>
    rw [run_cons, run_cons, after_withMetrics, ih, queuedIn, List.map_append,
      Metrics.countSent_append]

/-! ## Sessions while messages are handled -/

/-- While messages are handled, a session is of the same peer, is read as before, and gets what is
    queued to it. -/
theorem contents_run_dispatch (hs : n.sessions[number]? = some s) (session : Nat)
    (ms : List Message) :
    let events := ms.map (Event.dispatch session)
    ∃ s', (n.run events).sessions[number]? = some s' ∧ s'.peer = s.peer ∧
      s'.outbox.isOpen = s.outbox.isOpen ∧
      s'.outbox.contents = s.outbox.contents ++ messagesTo number (n.queuedIn events) := by
  induction ms generalizing n s with
  | nil => exact ⟨s, hs, rfl, rfl, (List.append_nil _).symm⟩
  | cons m ms ih =>
    obtain ⟨s', hs', hpeer, hisOpen, -⟩ := exists_getElem?_dispatch hs session m
    obtain ⟨t, ht, hcontents⟩ := contents_dispatch hs session m
    obtain rfl : t = s' := Option.some.inj (ht.symm.trans hs')
    obtain ⟨s'', hs'', hpeer', hisOpen', hcontents'⟩ := ih hs'
    refine ⟨s'', hs'', hpeer'.trans hpeer, hisOpen'.trans hisOpen, ?_⟩
    rw [hcontents', hcontents, List.map_cons, queuedIn, messagesTo_append, List.append_assoc]
    rfl

/-- `send` queues to one session. -/
theorem session_of_mem_send {ms : List Message} {q : Queued} (h : q ∈ (n.send number ms).queued) :
    q.session = number := by
  unfold send at h
  split at h
  · cases h
  · split at h
    · cases h
    · obtain ⟨m, -, rfl⟩ := List.mem_map.1 h
      rfl

/-- If by `halone` no other peer has a current session then there is nobody in the `audience`. -/
theorem audience_eq_nil {peer : String} (halone : ∀ p k, n.registry.find? p = some k → p = peer)
    (timestamp : UInt32) : n.audience peer timestamp = [] := by
  refine List.eq_nil_iff_forall_not_mem.2 fun k hk => ?_
  obtain ⟨p, -, hfind, hne, -⟩ := mem_audience_iff.1 hk
  exact hne (halone p k hfind)

/-- Then all that `dispatch` queues is queued to the session that the message came from. -/
theorem messagesTo_dispatch_of_alone (hs : n.sessions[number]? = some s)
    (halone : ∀ p k, n.registry.find? p = some k → p = s.peer) (m : Message) :
    let step := n.dispatch n.dispatcher number m
    messagesTo number step.queued = step.queued.map Queued.message := by
  intro step
  -- It is enough that nothing is queued to another session.
  suffices h : ∀ q ∈ step.queued, q.session = number by
    rw [messagesTo, List.filter_eq_self.2 fun q hq => decide_eq_true (h q hq)]
  obtain ⟨-, hqueued⟩ | ⟨r, -, -, hqueued⟩ := n.quiet_or_reacts number m
  · intro q hq
    rw [hqueued] at hq
    cases hq
  · -- Replies go to that session, and news to nobody.
    intro q hq
    rw [hqueued] at hq
    unfold apply at hq
    simp only at hq
    split at hq
    · rename_i news t hresult hrelay ht
      obtain rfl : t = s := Option.some.inj (ht.symm.trans hs)
      have hregistry := ((n.noted number r).delivers_send number r.replies).registry_eq
      unfold noted at hregistry
      rw [queued_relay, audience_eq_nil (by rw [hregistry]; exact halone)] at hq
      obtain hq | hq := List.mem_append.1 hq
      · exact session_of_mem_send hq
      · cases hq
    · exact session_of_mem_send hq

end Node

end ChannelGossip
