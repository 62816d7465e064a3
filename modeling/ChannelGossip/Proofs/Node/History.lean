import ChannelGossip.Proofs.Node.Run
import ChannelGossip.Proofs.Store.History

/-! # The store after a run

What a node has stored is a function of the messages that it has handled, whichever sessions they
came from and whatever else happened in between.  Main statements:

* `Store.IsFiled`   every entry is the reading of its message, in the place that it names
* `Node.run_recalls`   the store after a run -/

namespace ChannelGossip

/-- Every entry of a store is the reading of the message next to it and stands in the place that the
    message names: under its id, on the chain, and for its direction. -/
structure Store.IsFiled (chain : ChainHash) (s : Store) : Prop where
  announcement : ∀ id r, s.channels.find? id = some r →
    r.announcement.message.contents ChannelAnnouncement = .ok r.announcement.contents ∧
      r.announcement.contents.chainHash = chain ∧ r.announcement.contents.shortChannelId = id
  update : ∀ id r d u, s.channels.find? id = some r → r.newest d = some u →
    u.message.contents ChannelUpdate = .ok u.contents ∧ u.contents.chainHash = chain ∧
      u.contents.shortChannelId = id ∧ u.contents.direction = d
  node : ∀ id n, s.nodes.find? id = some n →
    n.message.contents NodeAnnouncement = .ok n.contents ∧ n.contents.nodeId = id

/-- What a store `Holds` is filed where it belongs. -/
theorem Store.Holds.isFiled {chain : ChainHash} {P : Message → Prop} {s : Store}
    (h : s.Holds chain P) : s.IsFiled chain where
  announcement id r hr := by
    obtain ⟨hfrom, hid⟩ := h.channel id r hr
    obtain ⟨hrecord, hchain⟩ := Message.filing?_eq_channel_iff.1 hfrom.filing?
    exact ⟨(Message.record_eq_ok_iff.1 hrecord).1, hchain, hid⟩
  update id r d u hr hu := by
    obtain ⟨hfrom, hslot⟩ := h.update id r d u hr hu
    obtain ⟨hrecord, hchain⟩ := Message.filing?_eq_update_iff.1 hfrom.filing?
    exact ⟨(Message.record_eq_ok_iff.1 hrecord).1, hchain, hslot⟩
  node id n hn := by
    obtain ⟨hfrom, hid⟩ := h.node id n hn
    obtain ⟨hrecord, -⟩ := Message.filing?_eq_node_iff.1 hfrom.filing?
    exact ⟨(Message.record_eq_ok_iff.1 hrecord).1, hid⟩

namespace Node

/-- The store after a run is a function of the messages that were handled in it: it `Recalls` the
    first announcement of each channel, the newest update from each end since then and the newest
    announcement of each node, each filed in its own place.  Handling a message of any other kind,
    or one from which it does not learn, changes nothing. -/
theorem run_recalls (config : Config) (events : List Event) :
    let n := (start config).run events
    n.store.Recalls config.chain (events.filterMap Event.message?) ∧
      n.store.IsFiled config.chain ∧
      ∀ session m, (n.dispatch n.dispatcher session m).node.store = n.store ∨
        n.store.Learns config.chain m := by
  intro n
  refine ⟨?_, ?_, fun session m => ?_⟩
  · rw [run_store]
    exact Store.recalls_fileAll config.chain _
  · exact (holds_run (P := fun _ => True) config fun _ _ _ _ => trivial).isFiled
  · -- A step either teaches the store something or leaves it.
    by_cases hlearns : n.store.Learns config.chain m
    · exact .inr hlearns
    · left
      rw [(n.dispatch_frame session m).1, run_config]
      exact Store.fileMessage_eq_self hlearns

end Node

end ChannelGossip
