import ChannelGossip.Proofs.Node.Queries
import ChannelGossip.Proofs.Node.Run
import ChannelGossip.Proofs.Store.Places
import Mathlib.Data.List.Sort

/-! # The backlog of a filter

A filter selects the channels with an update in its window and the nodes that were announced in it.
Its backlog goes through the selected channels in the order of their ids, each with its announcement
before its updates, and then through the selected nodes in the order of theirs.  No message is in it
twice, and the order in which a store lists its entries makes no difference.  Main statements:

* `GossipTimestampFilter.Covers`   the window of a filter, in exact numbers
* `Store.Selects`, `Store.Selects.unique`   what a filter selects, which is one list of each sort
* `Store.selects_matching`   the answer to a filter goes through what it selects
* `Store.nodup_backlog`   in what is filed from messages, no message is in it twice
* `Store.matching_goes_through_backlog`   all of it together -/

namespace ChannelGossip

/-! ## Windows -/

/-- Whether `t` lies in the window of a filter, which is open at its end.  The end may lie beyond
    2^32. -/
def GossipTimestampFilter.Covers (f : GossipTimestampFilter) (t : UInt32) : Prop :=
  f.firstTimestamp.toNat ≤ t.toNat ∧ t.toNat < f.firstTimestamp.toNat + f.timestampRange.toNat

instance (f : GossipTimestampFilter) (t : UInt32) : Decidable (f.Covers t) :=
  inferInstanceAs (Decidable (_ ∧ _))

/-- `matches` decides `Covers`. -/
theorem GossipTimestampFilter.matches_eq (f : GossipTimestampFilter) (t : UInt32) :
    f.matches t = decide (f.Covers t) :=
  (Bool.decide_and _ _).symm

/-- Both directions, the first end's before the second's. -/
def Direction.all : List Direction := [.fromFirst, .fromSecond]

namespace ChannelRecord

/-- The updates of a channel in the window of `f`, the first end's before the second's. -/
def updatesIn (r : ChannelRecord) (f : GossipTimestampFilter) : List (Recorded ChannelUpdate) :=
  (Direction.all.filterMap r.newest).filter fun u => f.Covers u.contents.timestamp

/-- `updatesIn` are the updates that the filter `matches`. -/
theorem updatesIn_eq (r : ChannelRecord) (f : GossipTimestampFilter) :
    r.updatesIn f = r.updates.filter fun u => f.matches u.contents.timestamp := by
  have hupdates : Direction.all.filterMap r.newest = r.updates := by
    unfold Direction.all updates
    cases hfirst : r.fromFirst with
    | none => cases hsecond : r.fromSecond <;> simp [newest, hfirst, hsecond]
    | some u => cases hsecond : r.fromSecond <;> simp [newest, hfirst, hsecond]
  rw [updatesIn, hupdates]
  simp only [GossipTimestampFilter.matches_eq]

/-- What is sent of a channel with an update in the window: the announcement, then the updates. -/
def filingsIn (r : ChannelRecord) (f : GossipTimestampFilter) : List Filing :=
  .channel r.announcement :: (r.updatesIn f).map .update

end ChannelRecord

namespace Store

variable {s : Store} {f : GossipTimestampFilter}

/-! ## Selections -/

/-- What `f` selects from a store, each with its id and in ascending order: the channels with an
    update in the window, and the nodes that were announced in it. -/
structure Selects (s : Store) (f : GossipTimestampFilter)
    (channels : List (ShortChannelId × ChannelRecord))
    (nodes : List (Point × Recorded NodeAnnouncement)) : Prop where
  channels_ascending : channels.Pairwise fun c c' => c.1.raw < c'.1.raw
  mem_channels_iff : ∀ id r, (id, r) ∈ channels ↔ s.channels.find? id = some r ∧
    ∃ d, ∃ u ∈ r.newest d, f.Covers u.contents.timestamp
  nodes_ascending : nodes.Pairwise fun n n' => List.Lex (· < ·) n.1.bytes n'.1.bytes
  mem_nodes_iff : ∀ id n, (id, n) ∈ nodes ↔ s.nodes.find? id = some n ∧
    f.Covers n.contents.timestamp

/-- The filings that a backlog goes through: of every channel the announcement and then the updates
    in the window, and then the nodes. -/
def backlog (f : GossipTimestampFilter) (channels : List (ShortChannelId × ChannelRecord))
    (nodes : List (Point × Recorded NodeAnnouncement)) : List Filing :=
  channels.flatMap (fun c => c.2.filingsIn f) ++ nodes.map fun n => .node n.2

/-- A filter selects by `Selects` in one way from all stores with the same entries. -/
theorem Selects.unique {s' : Store} {channels channels' : List (ShortChannelId × ChannelRecord)}
    {nodes nodes' : List (Point × Recorded NodeAnnouncement)} (h : s.Selects f channels nodes)
    (h' : s'.Selects f channels' nodes') (hchannels : s'.channels.find? = s.channels.find?)
    (hnodes : s'.nodes.find? = s.nodes.find?) : channels' = channels ∧ nodes' = nodes := by
  -- Two ascending lists with the same elements are the same.
  constructor
  · have : Std.Irrefl fun c c' : ShortChannelId × ChannelRecord => c.1.raw < c'.1.raw :=
      ⟨fun c => UInt64.lt_irrefl c.1.raw⟩
    have : Std.Antisymm fun c c' : ShortChannelId × ChannelRecord => c.1.raw < c'.1.raw :=
      ⟨fun c c' hlt hgt => absurd hgt (UInt64.lt_asymm hlt)⟩
    refine h'.channels_ascending.eq_of_mem_iff h.channels_ascending ?_
    rintro ⟨id, r⟩
    rw [h'.mem_channels_iff, h.mem_channels_iff, hchannels]
  · have : Std.Irrefl fun n n' : Point × Recorded NodeAnnouncement =>
        List.Lex (· < ·) n.1.bytes n'.1.bytes := ⟨fun n => List.lt_irrefl n.1.bytes⟩
    have : Std.Antisymm fun n n' : Point × Recorded NodeAnnouncement =>
        List.Lex (· < ·) n.1.bytes n'.1.bytes :=
      ⟨fun n n' hlt hgt => absurd hgt (List.lt_asymm hlt)⟩
    refine h'.nodes_ascending.eq_of_mem_iff h.nodes_ascending ?_
    rintro ⟨id, n⟩
    rw [h'.mem_nodes_iff, h.mem_nodes_iff, hnodes]

/-! ## The answer to a filter -/

/-- Sorted by `le` on their keys, entries of different keys are strictly in order. -/
theorem pairwise_mergeSort_keys {κ α : Type} {es : List (κ × α)} (hkeys : (es.map Prod.fst).Nodup)
    (le : κ → κ → Prop) [DecidableRel le] (trans : ∀ a b c, le a b → le b c → le a c)
    (total : ∀ a b, le a b ∨ le b a) :
    (es.mergeSort fun a b => le a.1 b.1).Pairwise fun a b => le a.1 b.1 ∧ a.1 ≠ b.1 := by
  have hsorted : (es.mergeSort fun a b => le a.1 b.1).Pairwise fun a b => le a.1 b.1 := by
    refine (List.pairwise_mergeSort (fun a b c hab hbc => ?_) (fun a b => ?_) es).imp
      of_decide_eq_true
    · exact decide_eq_true (trans _ _ _ (of_decide_eq_true hab) (of_decide_eq_true hbc))
    · rw [Bool.or_eq_true, decide_eq_true_eq, decide_eq_true_eq]
      exact total _ _
  have hnodup : ((es.mergeSort fun a b => le a.1 b.1).map Prod.fst).Nodup :=
    ((List.mergeSort_perm es _).map Prod.fst).nodup_iff.2 hkeys
  exact hsorted.and (List.pairwise_map.1 hnodup)

/-- `matchingChannel` has something only for channels with `updatesIn` the window, and then it is
    `filingsIn`. -/
theorem flatMap_matchingChannel (f : GossipTimestampFilter)
    (channels : List (ShortChannelId × ChannelRecord)) :
    channels.flatMap (fun c => matchingChannel f c.2) =
      ((channels.filter fun c => !(c.2.updatesIn f).isEmpty).flatMap fun c =>
        c.2.filingsIn f).map Filing.message := by
  induction channels with
  | nil => rfl
  | cons c channels ih =>
    have hone : matchingChannel f c.2 = if (c.2.updatesIn f).isEmpty then [] else
        c.2.announcement.message :: (c.2.updatesIn f).map Recorded.message := by
      rw [matchingChannel, ← ChannelRecord.updatesIn_eq]
      cases c.2.updatesIn f with
      | nil => rfl
      | cons u us => rfl
    rw [List.flatMap_cons, ih, hone]
    -- A channel without updates in the window is filtered out, and has no messages.
    cases hempty : (c.2.updatesIn f).isEmpty with
    | true => simp [hempty]
    | false =>
      simp only [hempty, Bool.not_false, List.filter_cons_of_pos, List.flatMap_cons,
        ChannelRecord.filingsIn, List.map_append, List.map_cons, List.map_map, Bool.false_eq_true,
        if_false]
      rfl

/-- `matching` goes through what the filter `Selects`, in the order of `backlog`. -/
theorem selects_matching (s : Store) (f : GossipTimestampFilter) :
    ∃ channels nodes, s.Selects f channels nodes ∧
      s.matching f = (backlog f channels nodes).map Filing.message := by
  let sorted := s.channels.entries.mergeSort fun a b => a.1.raw.toNat ≤ b.1.raw.toNat
  let announced := s.nodes.entries.filter fun n => f.matches n.2.contents.timestamp
  refine ⟨sorted.filter fun c => !(c.2.updatesIn f).isEmpty,
    announced.mergeSort fun a b => a.1.bytes ≤ b.1.bytes, ⟨?_, fun id r => ?_, ?_, fun id n => ?_⟩,
    ?_⟩
  · -- The channels are in strict order, because no two have one id.
    have hsorted : sorted.Pairwise fun a b =>
        a.1.raw.toNat ≤ b.1.raw.toNat ∧ a.1 ≠ b.1 :=
      pairwise_mergeSort_keys s.channels.nodup_keys (fun a b => a.raw.toNat ≤ b.raw.toNat)
        (fun _ _ _ => Nat.le_trans) (fun _ _ => Nat.le_total _ _)
    refine (hsorted.imp fun {a b} h => ?_).filter _
    have hne : a.1.raw.toNat ≠ b.1.raw.toNat := fun heq => h.2 (ShortChannelId.raw_toNat_inj heq)
    exact UInt64.lt_iff_toNat_lt.2 (Nat.lt_of_le_of_ne h.1 hne)
  · rw [List.mem_filter, List.mem_mergeSort, Table.mem_entries_iff, Bool.not_eq_true',
      List.isEmpty_eq_false_iff_exists_mem, ChannelRecord.updatesIn_eq]
    simp only [List.mem_filter, ChannelRecord.mem_updates_iff, GossipTimestampFilter.matches_eq,
      decide_eq_true_eq]
    refine and_congr_right fun _ => ⟨?_, ?_⟩
    · rintro ⟨u, ⟨d, hu⟩, hcovers⟩
      exact ⟨d, u, hu, hcovers⟩
    · rintro ⟨d, u, hu, hcovers⟩
      exact ⟨u, ⟨d, hu⟩, hcovers⟩
  · have hkeys : (announced.map Prod.fst).Nodup :=
      s.nodes.nodup_keys.sublist (List.filter_sublist.map _)
    have hsorted : (announced.mergeSort fun a b => a.1.bytes ≤ b.1.bytes).Pairwise fun a b =>
        a.1.bytes ≤ b.1.bytes ∧ a.1 ≠ b.1 :=
      pairwise_mergeSort_keys hkeys (fun a b => a.bytes ≤ b.bytes)
        (fun _ _ _ => List.le_trans) (fun _ _ => List.le_total _ _)
    refine hsorted.imp fun {a b} h => ?_
    -- Points with the same bytes are the same.
    rcases List.le_iff_lt_or_eq.1 h.1 with hlt | heq
    · exact hlt
    · refine absurd ?_ h.2
      rcases a with ⟨⟨as, ha⟩, n⟩
      rcases b with ⟨⟨bs, hb⟩, n'⟩
      simpa using heq
  · rw [List.mem_mergeSort, List.mem_filter, Table.mem_entries_iff,
      GossipTimestampFilter.matches_eq, decide_eq_true_eq]
  · have hchannels := flatMap_matchingChannel f sorted
    rw [backlog, List.map_append, ← hchannels, List.map_map]
    rfl

/-! ## No message twice -/

/-- What `filingsIn` has of a channel is in places that are about it. -/
private theorem channelId?_of_mem_filingsIn (h : s.IsBuilt) {id : ShortChannelId}
    {r : ChannelRecord} (hr : s.channels.find? id = some r) {g : Filing} (hg : g ∈ r.filingsIn f) :
    g.IsRead ∧ g.place.channelId? = some id := by
  rcases List.mem_cons.1 hg with rfl | hg
  · obtain ⟨hread, hplace⟩ := h.isRead (filing?_announcement_iff.2 ⟨r, hr, rfl⟩)
    exact ⟨hread, congrArg Place.channelId? hplace⟩
  · obtain ⟨u, hu, rfl⟩ := List.mem_map.1 hg
    obtain ⟨d, -, hd⟩ := List.mem_filterMap.1 (List.mem_of_mem_filter hu)
    obtain ⟨hread, hplace⟩ := h.isRead (filing?_update_iff.2 ⟨r, u, hr, hd, rfl⟩)
    exact ⟨hread, congrArg Place.channelId? hplace⟩

/-- No two of `filingsIn` are in one place. -/
private theorem pairwise_filingsIn (h : s.IsBuilt) {id : ShortChannelId} {r : ChannelRecord}
    (hr : s.channels.find? id = some r) :
    (r.filingsIn f).Pairwise fun g g' => g.place ≠ g'.place := by
  refine List.pairwise_cons.2 ⟨fun g hg heq => ?_, List.pairwise_map.2 (.filter _ ?_)⟩
  · obtain ⟨u, -, rfl⟩ := List.mem_map.1 hg
    cases heq
  · -- The updates come from different ends.
    have hplace : ∀ d u, r.newest d = some u → Filing.place (.update u) = .update id d :=
      fun d u hu => (h.isRead (filing?_update_iff.2 ⟨r, u, hr, hu, rfl⟩)).2
    have hends : Direction.all.Nodup := by decide
    refine List.pairwise_filterMap.2 (hends.imp fun {d d'} hne u hu u' hu' heq => ?_)
    rw [hplace d u hu, hplace d' u' hu'] at heq
    cases heq
    exact hne rfl

/-- In a store with `IsBuilt`, the `backlog` of what a filter selects has no message twice. -/
theorem nodup_backlog (h : s.IsBuilt) {channels : List (ShortChannelId × ChannelRecord)}
    {nodes : List (Point × Recorded NodeAnnouncement)} (hselects : s.Selects f channels nodes) :
    ((backlog f channels nodes).map Filing.message).Nodup := by
  have hchannel : ∀ c ∈ channels, ∀ g ∈ c.2.filingsIn f,
      g.IsRead ∧ g.place.channelId? = some c.1 := fun c hc g hg =>
    channelId?_of_mem_filingsIn h ((hselects.mem_channels_iff c.1 c.2).1 hc).1 hg
  have hnode : ∀ n ∈ nodes, Filing.IsRead (.node n.2) ∧ Filing.place (.node n.2) = .node n.1 :=
    fun n hn => h.isRead (filing?_node_iff.2 ⟨n.2, ((hselects.mem_nodes_iff n.1 n.2).1 hn).1, rfl⟩)
  -- No two filings are in one place, be they of one channel, of two channels, of two nodes, or of a
  -- channel and a node.
  have hplaces : (backlog f channels nodes).Pairwise fun g g' => g.place ≠ g'.place := by
    refine List.pairwise_append.2 ⟨List.pairwise_flatMap.2 ⟨fun c hc => ?_, ?_⟩,
      List.pairwise_map.2 ?_, fun g hg g' hg' heq => ?_⟩
    · exact pairwise_filingsIn h ((hselects.mem_channels_iff c.1 c.2).1 hc).1
    · -- Different channels have different ids.
      refine hselects.channels_ascending.imp_of_mem fun {c c'} hc hc' hlt g hg g' hg' heq => ?_
      have hid : some c.1 = some c'.1 := by
        rw [← (hchannel c hc g hg).2, ← (hchannel c' hc' g' hg').2, heq]
      exact UInt64.lt_irrefl c'.1.raw (Option.some.inj hid ▸ hlt)
    · refine hselects.nodes_ascending.imp_of_mem fun {n n'} hn hn' hlt heq => ?_
      rw [(hnode n hn).2, (hnode n' hn').2] at heq
      exact List.lt_irrefl n'.1.bytes (Place.node.inj heq ▸ hlt)
    · -- No place of a node is about a channel.
      obtain ⟨c, hc, hg⟩ := List.mem_flatMap.1 hg
      obtain ⟨n, -, rfl⟩ := List.mem_map.1 hg'
      exact Option.some_ne_none c.1 ((hchannel c hc g hg).2.symm.trans (congrArg _ heq))
  -- Filings that are read from their messages differ only if the messages do.
  have hread : ∀ g ∈ backlog f channels nodes, g.IsRead := by
    intro g hg
    rcases List.mem_append.1 hg with hg | hg
    · obtain ⟨c, hc, hg⟩ := List.mem_flatMap.1 hg
      exact (hchannel c hc g hg).1
    · obtain ⟨n, hn, rfl⟩ := List.mem_map.1 hg
      exact (hnode n hn).1
  refine List.pairwise_map.2 (hplaces.imp_of_mem fun {g g'} hg hg' hne hmessage => hne ?_)
  rw [(hread g hg).eq_of_message_eq (hread g' hg') hmessage]

/-! ## All of it together -/

/-- `matching` has the announcement and the updates in the window of `f` of each channel that has
    such updates, by ascending id, and then the announcements in its window by ascending id of the
    node.  No message is in it twice, and stores that list the same entries in different orders give
    the same answer. -/
theorem matching_goes_through_backlog (h : s.IsBuilt) (f : GossipTimestampFilter) :
    (∃ channels nodes, s.Selects f channels nodes ∧
      s.matching f = (backlog f channels nodes).map Filing.message) ∧
    (s.matching f).Nodup ∧
    ∀ s' : Store, s'.channels.entries.Perm s.channels.entries →
      s'.nodes.entries.Perm s.nodes.entries → s'.matching f = s.matching f := by
  obtain ⟨channels, nodes, hselects, hmatching⟩ := s.selects_matching f
  refine ⟨⟨channels, nodes, hselects, hmatching⟩, hmatching ▸ nodup_backlog h hselects, ?_⟩
  intro s' hchannels hnodes
  obtain ⟨channels', nodes', hselects', hmatching'⟩ := s'.selects_matching f
  obtain ⟨rfl, rfl⟩ := hselects.unique hselects' (Table.find?_eq_of_perm hchannels)
    (Table.find?_eq_of_perm hnodes)
  rw [hmatching', hmatching]

/-- A window that reaches past 2^32 does not go on at zero, so that the update at 8 seconds is not
    in the answer.  The channels are answered by their ids, not as they came. -/
theorem matching_goes_through_backlog_late_window :
    let high := ChannelAnnouncement.blank .bitcoin ⟨9⟩
    let low := ChannelAnnouncement.blank .bitcoin ⟨7⟩
    let ofHigh := Recorded.ofContents (ChannelUpdate.blank high 0xfffffffe 0)
    let ofLow := Recorded.ofContents (ChannelUpdate.blank low 0xffffffff 1)
    let old := Recorded.ofContents (ChannelUpdate.blank low 8 0)
    let node := Recorded.ofContents (NodeAnnouncement.blank 0xfffffff0)
    let messages := [Contents.toMessage high, ofHigh.message, Contents.toMessage low,
      ofLow.message, old.message, node.message]
    let s := ((Node.start (.ofChain .bitcoin)).run (messages.map (.dispatch 0))).store
    let f : GossipTimestampFilter := ⟨.bitcoin, 0xfffffff0, 0x20⟩
    (∃ channels nodes, s.Selects f channels nodes ∧
      s.matching f = (backlog f channels nodes).map Filing.message) ∧
    (s.matching f).Nodup ∧
    s.matching f =
      [Contents.toMessage low, ofLow.message, Contents.toMessage high, ofHigh.message,
        node.message] := by
  intro high low ofHigh ofLow old node messages s f
  obtain ⟨hbacklog, hnodup, -⟩ := matching_goes_through_backlog (Node.isBuilt_run _ _ : s.IsBuilt) f
  refine ⟨hbacklog, hnodup, ?_⟩
  have hchannels : s.channels.entries = [(⟨9⟩, ⟨.ofContents high, some ofHigh, none⟩),
      (⟨7⟩, ⟨.ofContents low, some old, some ofLow⟩)] := by decide +kernel
  have hnodes : (s.nodes.entries.filter fun n => f.matches n.2.contents.timestamp) =
      [(node.contents.nodeId, node)] := by decide +kernel
  -- The sorting does not evaluate by itself.
  have hsorted : ∀ r r' : ChannelRecord,
      ([(⟨9⟩, r), (⟨7⟩, r')] : List (ShortChannelId × ChannelRecord)).mergeSort
        (fun a b => a.1.raw.toNat ≤ b.1.raw.toNat) = [(⟨7⟩, r'), (⟨9⟩, r)] := by
    intro r r'
    simp [List.mergeSort, List.MergeSort.Internal.splitInTwo]
  simp only [matching, hchannels, hnodes, hsorted, List.mergeSort_singleton]
  decide +kernel

end Store

end ChannelGossip
