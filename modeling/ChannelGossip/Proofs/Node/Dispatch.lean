import ChannelGossip.Proofs.Node.Delivery
import ChannelGossip.Proofs.Store.Filing

/-! # Handling a message

Every catalogued message has a service, and handling it is the reaction of that service, noted and
then delivered.  What becomes of the store depends on nothing but the message.  Main statements:

* `Node.dispatch_eq_of_ok`, `Node.dispatch_eq_of_error`, `Node.dispatch_of_unknown`   the three ways
  in which handling a message goes
* `Node.dispatch_frame`   handling a message files it and leaves the configuration, the registry and
  the number of sessions as they are -/

namespace ChannelGossip

/-! ## Reactions and the store -/

namespace Gossip

variable {chain : ChainHash} {most : Nat} {s : Store} {m : Message}

theorem store_onChannelAnnouncement (a : Recorded ChannelAnnouncement) :
    (onChannelAnnouncement chain s a).store =
      if a.contents.chainHash = chain then s.file (.channel a) else s := by
  unfold onChannelAnnouncement
  split
  · rfl
  · rfl

theorem store_onChannelUpdate (u : Recorded ChannelUpdate) :
    (onChannelUpdate chain s u).store =
      if u.contents.chainHash = chain then s.file (.update u) else s := by
  unfold onChannelUpdate
  split
  · show _ = (s.insertUpdate u).1
    simp only
    split
    · rename_i h
      rw [h]
    · rename_i h
      rw [h]
  · rfl

theorem store_onNodeAnnouncement {n : Recorded NodeAnnouncement} {r : Reaction}
    (h : onNodeAnnouncement s n = .ok r) : r.store = s.file (.node n) := by
  obtain ⟨addresses, -, h⟩ := Except.bind_eq_ok_iff.1 h
  show r.store = (s.insertNode n).1
  split at h
  · rename_i hinsert
    rw [hinsert, ← Except.ok.inj h]
  · rename_i hinsert
    rw [hinsert, ← Except.ok.inj h]

/-- `onNodeAnnouncement` fails for no announcement with readable addresses. -/
theorem exists_onNodeAnnouncement (s : Store) {n : Recorded NodeAnnouncement}
    {addresses : List NetAddress} (h : n.contents.netAddresses = .ok addresses) :
    ∃ r, onNodeAnnouncement s n = .ok r := by
  simp only [onNodeAnnouncement, h, bind, Except.bind]
  split
  · exact ⟨_, rfl⟩
  · exact ⟨_, rfl⟩

theorem store_onQueryChannelRange {q : QueryChannelRange} {r : Reaction}
    (h : onQueryChannelRange chain most s q = .ok r) : r.store = s := by
  unfold onQueryChannelRange at h
  split at h
  · obtain ⟨replies, -, h⟩ := Except.bind_eq_ok_iff.1 h
    rw [← Except.ok.inj h]
  · obtain ⟨reply, -, h⟩ := Except.bind_eq_ok_iff.1 h
    rw [← Except.ok.inj h]

theorem store_onQueryShortChannelIds {q : QueryShortChannelIds} {r : Reaction}
    (h : onQueryShortChannelIds chain s q = .ok r) : r.store = s := by
  unfold onQueryShortChannelIds at h
  split at h
  · obtain ⟨ids, -, h⟩ := Except.bind_eq_ok_iff.1 h
    rw [← Except.ok.inj h]
  · rw [← Except.ok.inj h]

theorem store_onTimestampFilter (f : GossipTimestampFilter) :
    (onTimestampFilter chain s f).store = s := by
  unfold onTimestampFilter
  split
  · rfl
  · rfl

/-- `Gossip.react` files the message. -/
theorem store_react {r : Reaction} (h : react chain most s m = .ok r) :
    r.store = s.fileMessage chain m := by
  cases hkind : m.kind? with
  | none =>
    -- Nothing is done about a message outside the catalogue.
    simp only [react, hkind] at h
    simp only [Store.fileMessage, Message.filing?, hkind, ← Except.ok.inj h]
  | some kind =>
    cases kind with
    | channelAnnouncement =>
      simp only [react, hkind] at h
      obtain ⟨a, ha, h⟩ := Except.bind_eq_ok_iff.1 h
      rw [← Except.ok.inj h, store_onChannelAnnouncement]
      simp only [Store.fileMessage, Message.filing?, hkind, ha]
      split <;> rfl
    | channelUpdate =>
      simp only [react, hkind] at h
      obtain ⟨u, hu, h⟩ := Except.bind_eq_ok_iff.1 h
      rw [← Except.ok.inj h, store_onChannelUpdate]
      simp only [Store.fileMessage, Message.filing?, hkind, hu]
      split <;> rfl
    | nodeAnnouncement =>
      simp only [react, hkind] at h
      obtain ⟨n, hn, h⟩ := Except.bind_eq_ok_iff.1 h
      -- The reaction tells that the addresses could be read.
      obtain ⟨addresses, haddresses, -⟩ := Except.bind_eq_ok_iff.1 h
      rw [store_onNodeAnnouncement h]
      simp only [Store.fileMessage, Message.filing?, hkind, hn, haddresses]
    -- Queries and filters leave the store as it is.
    | queryChannelRange =>
      simp only [react, hkind] at h
      obtain ⟨q, -, h⟩ := Except.bind_eq_ok_iff.1 h
      rw [store_onQueryChannelRange h]
      simp only [Store.fileMessage, Message.filing?, hkind]
    | queryShortChannelIds =>
      simp only [react, hkind] at h
      obtain ⟨q, -, h⟩ := Except.bind_eq_ok_iff.1 h
      rw [store_onQueryShortChannelIds h]
      simp only [Store.fileMessage, Message.filing?, hkind]
    | gossipTimestampFilter =>
      simp only [react, hkind] at h
      obtain ⟨f, -, h⟩ := Except.bind_eq_ok_iff.1 h
      rw [← Except.ok.inj h, store_onTimestampFilter]
      simp only [Store.fileMessage, Message.filing?, hkind]
    | _ =>
      simp only [react, hkind] at h
      simp only [Store.fileMessage, Message.filing?, hkind, ← Except.ok.inj h]

/-- `onChannelAnnouncement` does not reply. -/
theorem replies_onChannelAnnouncement (a : Recorded ChannelAnnouncement) :
    (onChannelAnnouncement chain s a).replies = [] := by
  unfold onChannelAnnouncement
  split
  · rfl
  · rfl

/-- `onChannelUpdate` does not reply. -/
theorem replies_onChannelUpdate (u : Recorded ChannelUpdate) :
    (onChannelUpdate chain s u).replies = [] := by
  unfold onChannelUpdate
  split
  · simp only
    split
    · rfl
    · rfl
  · rfl

/-- `onNodeAnnouncement` does not reply. -/
theorem replies_onNodeAnnouncement {n : Recorded NodeAnnouncement} {r : Reaction}
    (h : onNodeAnnouncement s n = .ok r) : r.replies = [] := by
  obtain ⟨addresses, -, h⟩ := Except.bind_eq_ok_iff.1 h
  split at h
  · rw [← Except.ok.inj h]
  · rw [← Except.ok.inj h]

/-- A message about which `filing?` gives something is handled by `react` and not replied to. -/
theorem exists_react_of_filing? (most : Nat) (s : Store) {f : Filing}
    (hf : m.filing? chain = some f) : ∃ r, react chain most s m = .ok r ∧ r.replies = [] := by
  have hkind : m.kind? = some f.kind := Message.kind?_of_filing? hf
  cases f with
  | channel a =>
    obtain ⟨hrecord, -⟩ := Message.filing?_eq_channel_iff.1 hf
    refine ⟨onChannelAnnouncement chain s a, ?_, replies_onChannelAnnouncement a⟩
    simp only [react, hkind, Filing.kind, hrecord]
    rfl
  | update u =>
    obtain ⟨hrecord, -⟩ := Message.filing?_eq_update_iff.1 hf
    refine ⟨onChannelUpdate chain s u, ?_, replies_onChannelUpdate u⟩
    simp only [react, hkind, Filing.kind, hrecord]
    rfl
  | node n =>
    obtain ⟨hrecord, addresses, haddresses⟩ := Message.filing?_eq_node_iff.1 hf
    obtain ⟨r, hr⟩ := exists_onNodeAnnouncement s haddresses
    refine ⟨r, ?_, replies_onNodeAnnouncement hr⟩
    simp only [react, hkind, Filing.kind, hrecord]
    exact hr

/-- Nothing is filed about a message for which `Gossip.react` fails. -/
theorem filing?_of_react_error {e : Error} (h : react chain most s m = .error e) :
    m.filing? chain = none := by
  cases hfiling : m.filing? chain with
  | none => rfl
  | some f =>
    obtain ⟨r, hr, -⟩ := exists_react_of_filing? most s hfiling
    cases hr.symm.trans h

end Gossip

namespace Service

variable {s : Store} {m : Message} {r : Reaction}

theorem store_react_init (h : Service.init.react s m = .ok r) : r.store = s := by
  obtain ⟨contents, -, h⟩ := Except.bind_eq_ok_iff.1 h
  rw [← Except.ok.inj h]

theorem store_react_ping {answers : Bool} {most : UInt16}
    (h : (Service.ping answers most).react s m = .ok r) : r.store = s := by
  unfold react at h
  by_cases hpong : m.kind? = some .pong
  · simp only [if_pos hpong] at h
    rw [← Except.ok.inj h]
  · simp only [if_neg hpong] at h
    obtain ⟨request, -, h⟩ := Except.bind_eq_ok_iff.1 h
    split at h
    · rw [← Except.ok.inj h]
    · rw [← Except.ok.inj h]

end Service

namespace Node

/-- The service of a node that is in charge of a kind of messages. -/
def serviceOf (n : Node) : MessageKind → Service
  | .init => .init
  | .ping | .pong => .ping n.config.answerPings n.config.maxPongBytes
  | _ => .gossip n.config.chain n.config.maxReplyIds

/-- The `dispatcher` has a service for every catalogued message. -/
theorem find?_dispatcher (n : Node) (kind : MessageKind) :
    n.dispatcher.services.find? kind = some (n.serviceOf kind) := by
  cases kind <;> rfl

variable {n : Node} {m : Message} {kind : MessageKind} (number : Nat)

/-- `dispatch` of a message outside the catalogue changes nothing. -/
theorem dispatch_of_unknown (h : m.kind? = none) :
    n.dispatch n.dispatcher number m =
      ⟨n, [], if isOddType m.typeId then .ok .ignored else .error (.unknownType m.typeId)⟩ := by
  simp only [dispatch, h]
  split
  · rfl
  · rfl

/-- `dispatch` of a message for which its service fails changes nothing. -/
theorem dispatch_eq_of_error {e : Error} (hkind : m.kind? = some kind)
    (h : (n.serviceOf kind).react n.store m = .error e) :
    n.dispatch n.dispatcher number m = ⟨n, [], .error e⟩ := by
  simp only [dispatch, hkind, find?_dispatcher, h]

/-- `dispatch` of a message about which its service has the reaction `r` is `apply`. -/
theorem dispatch_eq_of_ok {r : Reaction} (hkind : m.kind? = some kind)
    (h : (n.serviceOf kind).react n.store m = .ok r) :
    n.dispatch n.dispatcher number m =
      ⟨(n.apply number r).node, (n.apply number r).queued,
        (n.apply number r).result.map fun _ => .handled⟩ := by
  simp only [dispatch, hkind, find?_dispatcher, h]

/-- Whatever `react` wants done about a message, the store files it. -/
theorem store_react {r : Reaction} (hkind : m.kind? = some kind)
    (h : (n.serviceOf kind).react n.store m = .ok r) :
    r.store = n.store.fileMessage n.config.chain m := by
  cases kind with
  | init =>
    rw [Service.store_react_init h]
    simp only [Store.fileMessage, Message.filing?, hkind]
  | ping =>
    rw [Service.store_react_ping h]
    simp only [Store.fileMessage, Message.filing?, hkind]
  | pong =>
    rw [Service.store_react_ping h]
    simp only [Store.fileMessage, Message.filing?, hkind]
  | _ => exact Gossip.store_react h

/-- Nothing is filed about a message for which its service fails. -/
theorem filing?_of_react_error {e : Error} (hkind : m.kind? = some kind)
    (h : (n.serviceOf kind).react n.store m = .error e) : m.filing? n.config.chain = none := by
  cases kind with
  | init => simp only [Message.filing?, hkind]
  | ping => simp only [Message.filing?, hkind]
  | pong => simp only [Message.filing?, hkind]
  | _ => exact Gossip.filing?_of_react_error h

/-- `dispatch` files the message and leaves the configuration, the registry and the number of
    sessions. -/
theorem dispatch_frame (n : Node) (number : Nat) (m : Message) :
    let n' := (n.dispatch n.dispatcher number m).node
    n'.store = n.store.fileMessage n.config.chain m ∧ n'.config = n.config ∧
      n'.registry = n.registry ∧ n'.sessions.length = n.sessions.length := by
  cases hkind : m.kind? with
  | none =>
    -- A message outside the catalogue is not filed either.
    rw [dispatch_of_unknown number hkind]
    simp only [Store.fileMessage, Message.filing?, hkind, and_self]
  | some kind =>
    cases hreact : (n.serviceOf kind).react n.store m with
    | error e =>
      rw [dispatch_eq_of_error number hkind hreact]
      exact ⟨(Store.fileMessage_of_none (filing?_of_react_error hkind hreact) n.store).symm,
        rfl, rfl, rfl⟩
    | ok r =>
      rw [dispatch_eq_of_ok number hkind hreact]
      -- After the reaction is noted, only outboxes change.
      have hdelivers := n.delivers_apply number r
      refine ⟨?_, hdelivers.config_eq, hdelivers.registry_eq, ?_⟩
      · exact hdelivers.store_eq.trans (store_react hkind hreact)
      · exact hdelivers.length_eq.trans (List.length_modify _ _ _)

end Node

end ChannelGossip
