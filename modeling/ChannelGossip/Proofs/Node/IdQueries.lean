import ChannelGossip.Proofs.Node.Queries
import ChannelGossip.Proofs.Node.Run
import ChannelGossip.Proofs.Store.About

/-! # Queries by id are answered exactly

A query by id is answered with what is stored about the listed channels, one channel after the
other in the order of the list, and a message that ends the answer.  Main statements:

* `Node.dispatch_plainIds`   the answer to a query with a list in the plain encoding
* `Node.answers_listed_ids`   what such an answer holds, whatever the node has handled before -/

namespace ChannelGossip.Node

/-- The message that ends the answer to a query by id, from a node that keeps the whole chain. -/
def lastReply (chain : ChainHash) : Message :=
  Contents.toMessage (⟨chain, 1⟩ : ReplyShortChannelIds)

/-- `lastReply` announces no node. -/
theorem not_announcesNode_lastReply (chain : ChainHash) (k : Point) :
    ¬(lastReply chain).AnnouncesNode k :=
  Message.not_announcesNode_of_kind? (Contents.kind?_toMessage _) (by decide)

/-- A query with the list `ids` in the plain encoding is answered by `aboutOne` for each id in turn,
    without the `owners` of the channels listed before, and by `lastReply`. -/
theorem dispatch_plainIds {n : Node} {number : Nat} {s : Session} {m : Message}
    {q : QueryShortChannelIds} {ids : List ShortChannelId} (hs : n.sessions[number]? = some s)
    (hopen : s.outbox.isOpen) (hm : m.contents QueryShortChannelIds = .ok q)
    (hchain : q.chainHash = n.config.chain) (hids : q.ids = .plain ids) :
    let step := n.dispatch n.dispatcher number m
    let answer := (ids.mapIdx fun i id =>
      n.store.aboutOne (n.store.owners (ids.take i)) id).flatten ++ [lastReply n.config.chain]
    answer = n.store.about [] ids ++ [lastReply n.config.chain] ∧ step.result = .ok .handled ∧
      step.queued = answer.map (⟨number, ·⟩) ∧
      ∃ s', step.node.sessions[number]? = some s' ∧
        s'.outbox.contents = s.outbox.contents ++ answer := by
  have hexpands : q.ids.ids = .ok ids := by rw [hids, IdList.ids_plain]
  obtain ⟨hresult, hqueued, hdelivers⟩ :=
    dispatch_queryShortChannelIds hs hopen hm hchain hexpands
  intro step answer
  have hanswer : answer = n.store.about [] ids ++ [lastReply n.config.chain] := by
    -- No channel is listed before the first one, so nothing is left out at the start.
    have habout := n.store.about_eq_flatten [] ids
    simp only [List.nil_append] at habout
    show _ ++ _ = _
    rw [← habout]
    rfl
  obtain ⟨s', hs', hreceives⟩ := hdelivers.receives number s hs
  have hcontents := hreceives.contents_eq
  rw [hqueued, messagesTo_map_self] at hcontents
  rw [hanswer]
  exact ⟨rfl, hresult, hqueued, s', hs', hcontents⟩

/-- A query by id for the node's chain, with a list in the plain encoding that by `hwhole` divides
    into ids, is answered by `aboutOne` for the ids in turn and by `lastReply`.  No node is
    announced twice in it, none before a channel that it owns, and no stored announcement of an
    owner is missing. -/
theorem answers_listed_ids (config : Config) (past : List Event) (number : Nat) (s : Session)
    (m : Message) (q : QueryShortChannelIds)
    (hs : ((start config).run past).sessions[number]? = some s) (hopen : s.outbox.isOpen)
    (hm : m.contents QueryShortChannelIds = .ok q) (hchain : q.chainHash = config.chain)
    (hencoding : q.ids.encoding = .uncompressed) (hwhole : q.ids.body.length % 8 = 0) :
    let n := (start config).run past
    let step := n.dispatch n.dispatcher number m
    ∃ ids answer, q.ids = .plain ids ∧
      answer = (ids.mapIdx fun i id =>
        n.store.aboutOne (n.store.owners (ids.take i)) id).flatten ++ [lastReply config.chain] ∧
      step.result = .ok .handled ∧ step.queued = answer.map (⟨number, ·⟩) ∧
      (∃ s', step.node.sessions[number]? = some s' ∧
        s'.outbox.contents = s.outbox.contents ++ answer) ∧
      (answer.Pairwise fun a b => ∀ k, a.AnnouncesNode k → ¬b.AnnouncesNode k) ∧
      (∀ k, Preceded (·.AnnouncesChannelOf k) (·.AnnouncesNode k) answer) ∧
      ∀ id ∈ ids, ∀ r, n.store.channels.find? id = some r → ∀ k ∈ r.nodeIds, ∀ node,
        n.store.nodes.find? k = some node → node.message ∈ answer := by
  intro n step
  have hconfig : n.config = config := run_config _ past
  have hstore : n.store.Holds config.chain fun _ => True := holds_run config fun _ _ _ _ => trivial
  obtain ⟨ids, hids⟩ := IdList.exists_eq_plain hencoding hwhole
  obtain ⟨hanswer, hresult, hqueued, hcontents⟩ :=
    dispatch_plainIds hs hopen hm (hconfig.symm ▸ hchain) hids
  rw [hconfig] at hanswer hqueued hcontents
  -- What is left is about the announcements of nodes; what ends the answer is none.
  refine ⟨ids, _, hids, rfl, hresult, hqueued, hcontents, ?_⟩
  rw [hanswer]
  refine ⟨?_, fun k => ?_, fun id hid r hr k hk node hnode => ?_⟩
  · rw [List.pairwise_append]
    refine ⟨hstore.pairwise_about [] ids, List.pairwise_singleton _ _, ?_⟩
    intro a _ b hb k _
    rw [List.mem_singleton.1 hb]
    exact not_announcesNode_lastReply config.chain k
  · refine (hstore.preceded_about [] ids k).append (.of_none (List.forall_mem_singleton.2 ?_))
    exact not_announcesNode_lastReply config.chain k
  · -- A node at the end of a listed channel owns it.
    have howner : k ∈ n.store.owners ids := by
      refine List.mem_flatMap.2 ⟨id, hid, ?_⟩
      rw [hr]
      exact hk
    exact List.mem_append_left _ (Store.mem_about_of_owner howner List.not_mem_nil hnode)

/-- A channel that is listed twice is told about twice, its only owner once, and another id is
    passed over. -/
theorem answers_listed_ids_repeated :
    let config := Config.ofChain .bitcoin
    let id : ShortChannelId := ⟨5 * 0x10000000000⟩
    let channel := ChannelAnnouncement.blank .bitcoin id
    let update := ChannelUpdate.blank channel 1500 1
    let node := NodeAnnouncement.blank 1500
    let past : List Event := [.openSession "teller" 8, .openSession "asker" 8,
      .dispatch 0 (Contents.toMessage channel), .dispatch 0 (Contents.toMessage update),
      .dispatch 0 (Contents.toMessage node)]
    let q : QueryShortChannelIds := ⟨.bitcoin, .plain [id, ⟨7⟩, id]⟩
    let n := (start config).run past
    let step := n.dispatch n.dispatcher 1 (Contents.toMessage q)
    step.result = .ok .handled ∧
      step.queued =
        [Contents.toMessage channel, Contents.toMessage update, Contents.toMessage node,
          Contents.toMessage channel, Contents.toMessage update,
          lastReply .bitcoin].map (⟨1, ·⟩) := by
  intro config id channel update node past q n step
  have hwhole : q.ids.body.length % 8 = 0 := by
    show ([id, ⟨7⟩, id].flatMap ShortChannelId.encode).length % 8 = 0
    rw [IdList.length_flatMap_encode]
    exact Nat.mul_mod_left _ 8
  have hasker : n.sessions[1]?.any (·.outbox.isOpen) = true := by decide +kernel
  obtain ⟨s, hs, hopen⟩ := (Option.any_eq_true _ _).1 hasker
  obtain ⟨ids, answer, hids, hanswer, hresult, hqueued, -⟩ :=
    answers_listed_ids config past 1 s (Contents.toMessage q) q hs hopen
      (Message.contents_toMessage q) rfl rfl hwhole
  have hlisted : ids = [id, ⟨7⟩, id] := by
    have hexpands : (IdList.plain [id, ⟨7⟩, id]).ids = (IdList.plain ids).ids := congrArg _ hids
    rw [IdList.ids_plain, IdList.ids_plain] at hexpands
    exact (Except.ok.inj hexpands).symm
  refine ⟨hresult, ?_⟩
  rw [hqueued, hanswer, hlisted]
  decide +kernel

end ChannelGossip.Node
