import ChannelGossip.Proofs.Store.Introduction
import Mathlib.Data.List.Basic

/-! # What is told about listed channels

What a store tells about a list of channels is what it tells about one after the other.  About each
it tells its own messages and the announcements of its nodes, without those nodes that an earlier
channel of the list has.  Main statements:

* `Store.aboutOne`   what is told about a channel, with some nodes left out
* `Store.about_eq_flatten`   what is told about a list is told channel by channel
* `Store.Holds.pairwise_about`   no node is announced twice
* `Store.Holds.preceded_about`   each is announced after one of its channels
* `Store.mem_about_of_owner`   and every stored announcement of an owner is among them -/

namespace ChannelGossip

namespace Message

/-- A message announces the node `k`. -/
def AnnouncesNode (m : Message) (k : Point) : Prop :=
  ∃ n : NodeAnnouncement, m.contents NodeAnnouncement = .ok n ∧ n.nodeId = k

/-- A message announces a channel that the node `k` has an end of. -/
def AnnouncesChannelOf (m : Message) (k : Point) : Prop :=
  ∃ a : ChannelAnnouncement, m.contents ChannelAnnouncement = .ok a ∧
    (a.nodeId1 = k ∨ a.nodeId2 = k)

variable {m : Message} {k k' : Point}

theorem AnnouncesNode.kind?_eq (h : m.AnnouncesNode k) : m.kind? = some .nodeAnnouncement := by
  obtain ⟨n, hn, -⟩ := h
  exact kind?_of_contents hn

/-- A message announces one node at most by `AnnouncesNode`. -/
theorem AnnouncesNode.unique (h : m.AnnouncesNode k) (h' : m.AnnouncesNode k') : k = k' := by
  obtain ⟨n, hn, rfl⟩ := h
  obtain ⟨n', hn', rfl⟩ := h'
  rw [Except.ok.inj (hn.symm.trans hn')]

/-- Only node announcements are messages of `AnnouncesNode`. -/
theorem not_announcesNode_of_kind? {kind : MessageKind} (h : m.kind? = some kind)
    (hkind : kind ≠ .nodeAnnouncement) : ¬m.AnnouncesNode k := by
  intro hannounces
  rw [hannounces.kind?_eq, Option.some.injEq] at h
  exact hkind h.symm

end Message

namespace Store

variable {s : Store} {considered considered' : List Point} {id : ShortChannelId} {k : Point}

/-- The nodes at the ends of the listed channels, as far as these are stored. -/
def owners (s : Store) (ids : List ShortChannelId) : List Point :=
  ids.flatMap fun id => ((s.channels.find? id).map ChannelRecord.nodeIds).getD []

/-- The stored announcement of `k`, unless it was `considered` before. -/
def nodeMessage (s : Store) (considered : List Point) (k : Point) : List Message :=
  if k ∈ considered then [] else ((s.nodes.find? k).map Recorded.message).toList

/-- What is told about a channel if some nodes were `considered` before: nothing if it is not
    stored, and else its announcement, the update from its first end, that from its second, the
    announcement of its first node and that of its second. -/
def aboutOne (s : Store) (considered : List Point) (id : ShortChannelId) : List Message :=
  match s.channels.find? id with
  | none => []
  | some r =>
    let first := r.announcement.contents.nodeId1
    let second := r.announcement.contents.nodeId2
    [r.announcement.message] ++ (r.fromFirst.map Recorded.message).toList ++
      (r.fromSecond.map Recorded.message).toList ++
      s.nodeMessage considered first ++ s.nodeMessage (first :: considered) second

/-! ## One channel after the other -/

theorem owners_singleton_of_none (h : s.channels.find? id = none) : s.owners [id] = [] := by
  rw [owners, List.flatMap_singleton, h]
  rfl

theorem owners_singleton_of_some {r : ChannelRecord} (h : s.channels.find? id = some r) :
    s.owners [id] = r.nodeIds := by
  rw [owners, List.flatMap_singleton, h]
  rfl

theorem owners_append (s : Store) (ids ids' : List ShortChannelId) :
    s.owners (ids ++ ids') = s.owners ids ++ s.owners ids' :=
  List.flatMap_append

/-- `aboutOne` tells nothing about a channel that is not stored. -/
theorem aboutOne_of_none (h : s.channels.find? id = none) : s.aboutOne considered id = [] := by
  simp only [aboutOne, h]

/-- `aboutOne` tells the `messages` of a stored channel and those of its nodes. -/
theorem aboutOne_of_some {r : ChannelRecord} (h : s.channels.find? id = some r) :
    s.aboutOne considered id = r.messages ++
      (s.nodeMessage considered r.announcement.contents.nodeId1 ++
        s.nodeMessage (r.announcement.contents.nodeId1 :: considered)
          r.announcement.contents.nodeId2) := by
  have hupdates : r.updates.map Recorded.message = (r.fromFirst.map Recorded.message).toList ++
      (r.fromSecond.map Recorded.message).toList := by
    rw [ChannelRecord.updates, List.map_append, ← Option.toList_map, ← Option.toList_map]
  simp only [aboutOne, h, ChannelRecord.messages, hupdates, List.append_assoc, List.cons_append,
    List.nil_append]

/-- For `about` it does not matter in which order nodes were `considered`, or how often. -/
theorem about_congr (h : ∀ k, k ∈ considered ↔ k ∈ considered') (ids : List ShortChannelId) :
    s.about considered ids = s.about considered' ids := by
  induction ids generalizing considered considered' with
  | nil => rfl
  | cons id ids ih =>
    cases hr : s.channels.find? id with
    | none =>
      simp only [about, hr]
      exact ih h
    | some r =>
      -- Nodes are only looked up in the list.
      have hcontains : ∀ k, considered.contains k = considered'.contains k := by
        intro k
        rw [Bool.eq_iff_iff, List.contains_iff_mem, List.contains_iff_mem]
        exact h k
      simp only [about, hr, hcontains]
      refine congrArg _ (ih fun k => ?_)
      rw [List.mem_append, List.mem_append, h]

/-- The announcements of two nodes that were not `considered` before are those of `nodeMessage`,
    where the first one is considered before the second. -/
private theorem filterMap_fresh (s : Store) (considered : List Point) (k k' : Point) :
    (([k, k'].eraseDups.filter fun node => !considered.contains node).filterMap fun node =>
        (s.nodes.find? node).map Recorded.message) =
      s.nodeMessage considered k ++ s.nodeMessage (k :: considered) k' := by
  have hone : ∀ node, (([node].filter fun node => !considered.contains node).filterMap fun node =>
      (s.nodes.find? node).map Recorded.message) = s.nodeMessage considered node := by
    intro node
    by_cases hnode : node ∈ considered
    · simp [nodeMessage, hnode]
    · cases hfind : s.nodes.find? node with
      | none => simp [nodeMessage, hnode, hfind]
      | some n => simp [nodeMessage, hnode, hfind]
  by_cases hsame : k' = k
  · -- A node that has both ends is considered once.
    subst hsame
    have hdups : [k', k'].eraseDups = [k'] := by simp [List.eraseDups_cons]
    have hsecond : s.nodeMessage (k' :: considered) k' = [] := if_pos List.mem_cons_self
    rw [hdups, hone, hsecond, List.append_nil]
  · have hdups : [k, k'].eraseDups = [k] ++ [k'] := by
      simp [List.eraseDups_cons, hsame]
    have hsecond : s.nodeMessage (k :: considered) k' = s.nodeMessage considered k' := by
      simp only [nodeMessage, List.mem_cons, hsame, false_or]
    rw [hdups, List.filter_append, List.filterMap_append, hone, hone, hsecond]

/-- `about` starts with `aboutOne` for the first channel, whose `owners` are then left out. -/
theorem about_cons (s : Store) (considered : List Point) (id : ShortChannelId)
    (ids : List ShortChannelId) :
    s.about considered (id :: ids) =
      s.aboutOne considered id ++ s.about (considered ++ s.owners [id]) ids := by
  cases hr : s.channels.find? id with
  | none =>
    rw [aboutOne_of_none hr, owners_singleton_of_none hr, List.append_nil]
    simp only [about, hr, List.nil_append]
  | some r =>
    have hnodes := filterMap_fresh s considered r.announcement.contents.nodeId1
      r.announcement.contents.nodeId2
    rw [aboutOne_of_some hr, owners_singleton_of_some hr, ← hnodes]
    simp only [about, hr]
    refine congrArg _ (about_congr (fun k => ?_) ids)
    -- A node that was considered before is no less considered for being an owner.
    simp only [ChannelRecord.nodeIds, List.mem_append, List.mem_filter, List.mem_eraseDups,
      Bool.not_eq_true', List.contains_eq_mem, decide_eq_false_iff_not]
    tauto

/-- `about` is `aboutOne` for each channel in turn, without the `owners` of the channels before
    it. -/
theorem about_eq_flatten (s : Store) (before ids : List ShortChannelId) :
    s.about (s.owners before) ids =
      (ids.mapIdx fun i id => s.aboutOne (s.owners (before ++ ids.take i)) id).flatten := by
  -- The first channel goes from those to come to those before.
  induction ids generalizing before with
  | nil => rfl
  | cons id ids ih =>
    rw [about_cons, ← owners_append, ih, List.mapIdx_cons, List.flatten_cons, List.take_zero,
      List.append_nil]
    simp only [List.take_succ_cons, List.append_assoc, List.singleton_append]

/-! ## Nodes -/

/-- `nodeMessage` tells of a stored node unless it was `considered` before. -/
theorem mem_nodeMessage_iff {m : Message} :
    m ∈ s.nodeMessage considered k ↔
      k ∉ considered ∧ ∃ n, s.nodes.find? k = some n ∧ n.message = m := by
  unfold nodeMessage
  split
  · rename_i hk
    simp [hk]
  · rename_i hk
    simp [hk]

/-- `aboutOne` tells of the stored `owners` of a channel unless they were `considered`. -/
theorem mem_aboutOne_of_owner {n : Recorded NodeAnnouncement} (hk : k ∈ s.owners [id])
    (hconsidered : k ∉ considered) (hn : s.nodes.find? k = some n) :
    n.message ∈ s.aboutOne considered id := by
  cases hr : s.channels.find? id with
  | none =>
    rw [owners_singleton_of_none hr] at hk
    cases hk
  | some r =>
    rw [owners_singleton_of_some hr] at hk
    rw [aboutOne_of_some hr, List.mem_append, List.mem_append, mem_nodeMessage_iff,
      mem_nodeMessage_iff]
    right
    -- The node is the first one of the channel, or else the second.
    by_cases hfirst : k = r.announcement.contents.nodeId1
    · left
      rw [← hfirst]
      exact ⟨hconsidered, n, hn, rfl⟩
    · obtain rfl : k = r.announcement.contents.nodeId2 := by
        obtain h | h := List.mem_pair.1 hk
        · exact absurd h hfirst
        · exact h
      right
      refine ⟨?_, n, hn, rfl⟩
      rw [List.mem_cons, not_or]
      exact ⟨hfirst, hconsidered⟩

/-- `about` tells of the stored `owners` of listed channels unless they were `considered` before. -/
theorem mem_about_of_owner {ids : List ShortChannelId} {n : Recorded NodeAnnouncement}
    (hk : k ∈ s.owners ids) (hconsidered : k ∉ considered) (hn : s.nodes.find? k = some n) :
    n.message ∈ s.about considered ids := by
  induction ids generalizing considered with
  | nil => cases hk
  | cons id ids ih =>
    rw [about_cons, List.mem_append]
    -- It is told with the first channel that it owns.
    by_cases hid : k ∈ s.owners [id]
    · exact .inl (mem_aboutOne_of_owner hid hconsidered hn)
    · have hids : k ∈ s.owners ids := by
        rw [← List.singleton_append, owners_append, List.mem_append] at hk
        exact hk.resolve_left hid
      refine .inr (ih hids ?_)
      rw [List.mem_append, not_or]
      exact ⟨hconsidered, hid⟩

namespace Holds

variable {chain : ChainHash} {P : Message → Prop}

/-- The `messages` of a channel announce no node. -/
theorem not_announcesNode_of_mem_messages (h : s.Holds chain P) {r : ChannelRecord}
    (hr : s.channels.find? id = some r) {m : Message} (hm : m ∈ r.messages) :
    ¬m.AnnouncesNode k := by
  rcases List.mem_cons.1 hm with rfl | hm
  · exact Message.not_announcesNode_of_kind? (h.announces hr).kind?_eq nofun
  · obtain ⟨u, hu, rfl⟩ := List.mem_map.1 hm
    obtain ⟨d, hd⟩ := ChannelRecord.mem_updates_iff.1 hu
    obtain ⟨hfrom, -⟩ := h.update id r d u hr hd
    exact Message.not_announcesNode_of_kind? (Message.kind?_of_filing? hfrom.filing?) nofun

/-- What is stored of a node announces it by `AnnouncesNode`. -/
theorem announcesNode (h : s.Holds chain P) {n : Recorded NodeAnnouncement}
    (hn : s.nodes.find? k = some n) : n.message.AnnouncesNode k := by
  obtain ⟨hfrom, hid⟩ := h.node k n hn
  obtain ⟨hrecord, -⟩ := Message.filing?_eq_node_iff.1 hfrom.filing?
  exact ⟨n.contents, (Message.record_eq_ok_iff.1 hrecord).1, hid⟩

/-- The stored announcement of a channel announces it for each of `nodeIds`. -/
theorem announcesChannelOf (h : s.Holds chain P) {r : ChannelRecord}
    (hr : s.channels.find? id = some r) (hk : k ∈ r.nodeIds) :
    r.announcement.message.AnnouncesChannelOf k := by
  obtain ⟨hfrom, -⟩ := h.channel id r hr
  obtain ⟨hrecord, -⟩ := Message.filing?_eq_channel_iff.1 hfrom.filing?
  refine ⟨r.announcement.contents, (Message.record_eq_ok_iff.1 hrecord).1, ?_⟩
  obtain rfl | rfl := List.mem_pair.1 hk
  · exact .inl rfl
  · exact .inr rfl

/-- `nodeMessage` announces its own node, which was not `considered` before. -/
theorem eq_of_mem_nodeMessage (h : s.Holds chain P) {m : Message} {k' : Point}
    (hm : m ∈ s.nodeMessage considered k) (hannounces : m.AnnouncesNode k') :
    k' = k ∧ k' ∉ considered := by
  obtain ⟨hk, n, hn, rfl⟩ := mem_nodeMessage_iff.1 hm
  obtain rfl := hannounces.unique (h.announcesNode hn)
  exact ⟨rfl, hk⟩

/-- The nodes that `aboutOne` announces are `owners` and were not `considered` before. -/
theorem owner_of_mem_aboutOne (h : s.Holds chain P) {m : Message}
    (hm : m ∈ s.aboutOne considered id) (hannounces : m.AnnouncesNode k) :
    k ∈ s.owners [id] ∧ k ∉ considered := by
  cases hr : s.channels.find? id with
  | none =>
    rw [aboutOne_of_none hr] at hm
    cases hm
  | some r =>
    rw [aboutOne_of_some hr, List.mem_append, List.mem_append] at hm
    rw [owners_singleton_of_some hr]
    -- The message is one of the channel, of its first node or of its second.
    obtain hm | hm | hm := hm
    · exact absurd hannounces (h.not_announcesNode_of_mem_messages hr hm)
    · obtain ⟨rfl, hk⟩ := h.eq_of_mem_nodeMessage hm hannounces
      exact ⟨List.mem_pair.2 (.inl rfl), hk⟩
    · obtain ⟨rfl, hk⟩ := h.eq_of_mem_nodeMessage hm hannounces
      exact ⟨List.mem_pair.2 (.inr rfl), fun hmem => hk (List.mem_cons_of_mem _ hmem)⟩

/-- The nodes that `about` announces were not `considered` before. -/
theorem not_considered_of_mem_about (h : s.Holds chain P) {ids : List ShortChannelId} {m : Message}
    (hm : m ∈ s.about considered ids) (hannounces : m.AnnouncesNode k) : k ∉ considered := by
  induction ids generalizing considered with
  | nil => cases hm
  | cons id ids ih =>
    rw [about_cons, List.mem_append] at hm
    obtain hm | hm := hm
    · exact (h.owner_of_mem_aboutOne hm hannounces).2
    · exact fun hk => ih hm (List.mem_append_left _ hk)

/-- `aboutOne` announces no node twice. -/
theorem pairwise_aboutOne (h : s.Holds chain P) (considered : List Point) (id : ShortChannelId) :
    (s.aboutOne considered id).Pairwise fun m m' =>
      ∀ k, m.AnnouncesNode k → ¬m'.AnnouncesNode k := by
  -- One message at most is about each of the two nodes.
  have hnode : ∀ considered k, (s.nodeMessage considered k).Pairwise fun m m' =>
      ∀ k, m.AnnouncesNode k → ¬m'.AnnouncesNode k := by
    intro considered k
    unfold nodeMessage
    split
    · exact .nil
    · cases s.nodes.find? k with
      | none => exact .nil
      | some n => exact List.pairwise_singleton _ _
  cases hr : s.channels.find? id with
  | none =>
    rw [aboutOne_of_none hr]
    exact .nil
  | some r =>
    rw [aboutOne_of_some hr, List.pairwise_append, List.pairwise_append]
    have hmessages : ∀ m ∈ r.messages, ∀ k, ¬m.AnnouncesNode k := fun m hm k =>
      h.not_announcesNode_of_mem_messages hr hm
    refine ⟨?_, ⟨hnode _ _, hnode _ _, ?_⟩, fun m hm m' _ k hk => absurd hk (hmessages m hm k)⟩
    · exact List.pairwise_of_forall_mem_list fun m hm m' _ k hk => absurd hk (hmessages m hm k)
    · intro m hm m' hm' k hk hk'
      -- The second node is not announced if it is the first.
      obtain ⟨hfirst, -⟩ := h.eq_of_mem_nodeMessage hm hk
      obtain ⟨-, hnot⟩ := h.eq_of_mem_nodeMessage hm' hk'
      exact hnot (hfirst ▸ List.mem_cons_self)

/-- `about` announces no node twice. -/
theorem pairwise_about (h : s.Holds chain P) (considered : List Point)
    (ids : List ShortChannelId) :
    (s.about considered ids).Pairwise fun m m' => ∀ k, m.AnnouncesNode k → ¬m'.AnnouncesNode k := by
  induction ids generalizing considered with
  | nil => exact .nil
  | cons id ids ih =>
    rw [about_cons, List.pairwise_append]
    refine ⟨h.pairwise_aboutOne considered id, ih _, fun m hm m' hm' k hk hk' => ?_⟩
    -- A node told with the first channel is considered from then on.
    obtain ⟨howner, -⟩ := h.owner_of_mem_aboutOne hm hk
    exact h.not_considered_of_mem_about hm' hk' (List.mem_append_right _ howner)

/-- `about` announces a node only after a channel that it owns. -/
theorem preceded_about (h : s.Holds chain P) (considered : List Point)
    (ids : List ShortChannelId) (k : Point) :
    Preceded (·.AnnouncesChannelOf k) (·.AnnouncesNode k) (s.about considered ids) := by
  -- Channel by channel: with each, the node comes after this channel or not at all.
  induction ids generalizing considered with
  | nil => exact .of_none (List.forall_mem_nil _)
  | cons id ids ih =>
    rw [about_cons]
    refine .append ?_ (ih _)
    by_cases howner : k ∈ s.owners [id]
    · -- The announcement of the channel comes first.
      cases hr : s.channels.find? id with
      | none =>
        rw [owners_singleton_of_none hr] at howner
        cases howner
      | some r =>
        rw [owners_singleton_of_some hr] at howner
        rw [aboutOne_of_some hr]
        exact .cons (h.announcesChannelOf hr howner)
          (h.not_announcesNode_of_mem_messages hr List.mem_cons_self)
    · exact .of_none fun m hm hk => howner (h.owner_of_mem_aboutOne hm hk).1

end Holds

end Store

end ChannelGossip
