import ChannelGossip.Proofs.Store.Holds

/-! # What a filter asks for

The answer to a timestamp filter has the stored updates and announcements of nodes whose timestamps
lie in its window, and with the updates the announcements of their channels.  Main statements:

* `Store.mem_matching_iff`   what is in the answer
* `Store.Holds.mem_matching`   all of it comes from messages that were filed -/

namespace ChannelGossip.Store

variable {s : Store} {f : GossipTimestampFilter} {m : Message}

/-- `matchingChannel` has the updates of a channel in the window of `f`, and the announcement if
    there are any. -/
theorem mem_matchingChannel_iff {r : ChannelRecord} :
    m ∈ matchingChannel f r ↔ ∃ u ∈ r.updates, f.matches u.contents.timestamp ∧
      (m = r.announcement.message ∨ m = u.message) := by
  have hfilter : ∀ u, u ∈ r.updates.filter (fun u => f.matches u.contents.timestamp) ↔
      u ∈ r.updates ∧ f.matches u.contents.timestamp := fun u => List.mem_filter
  unfold matchingChannel
  split
  · rename_i hnil
    rw [hnil] at hfilter
    -- No update in the window: neither side has anything.
    constructor
    · intro h
      cases h
    · rintro ⟨u, hu, hmatches, -⟩
      exact absurd ((hfilter u).2 ⟨hu, hmatches⟩) List.not_mem_nil
  · rename_i hne
    rw [List.mem_cons, List.mem_map]
    constructor
    · rintro (rfl | ⟨u, hu, rfl⟩)
      · -- There is an update in the window to go with the announcement.
        obtain ⟨u, hu⟩ := List.exists_mem_of_ne_nil _ hne
        obtain ⟨hmem, hmatches⟩ := (hfilter u).1 hu
        exact ⟨u, hmem, hmatches, .inl rfl⟩
      · obtain ⟨hmem, hmatches⟩ := (hfilter u).1 hu
        exact ⟨u, hmem, hmatches, .inr rfl⟩
    · rintro ⟨u, hu, hmatches, rfl | rfl⟩
      · exact .inl rfl
      · exact .inr ⟨u, (hfilter u).2 ⟨hu, hmatches⟩, rfl⟩

/-- What `matching` consists of. -/
theorem mem_matching_iff :
    m ∈ s.matching f ↔
      (∃ id r, s.channels.find? id = some r ∧ ∃ u ∈ r.updates,
        f.matches u.contents.timestamp ∧ (m = r.announcement.message ∨ m = u.message)) ∨
      ∃ id n, s.nodes.find? id = some n ∧ f.matches n.contents.timestamp ∧ m = n.message := by
  rw [matching, List.mem_append, List.mem_flatMap, List.mem_map]
  -- The order of the entries makes no difference to what is among them.
  simp only [List.mem_mergeSort, List.mem_filter, Prod.exists, Table.mem_entries_iff]
  constructor
  · rintro (⟨id, r, hr, hm⟩ | ⟨id, n, ⟨hn, hmatches⟩, rfl⟩)
    · exact .inl ⟨id, r, hr, mem_matchingChannel_iff.1 hm⟩
    · exact .inr ⟨id, n, hn, hmatches, rfl⟩
  · rintro (⟨id, r, hr, hm⟩ | ⟨id, n, hn, hmatches, rfl⟩)
    · exact .inl ⟨id, r, hr, mem_matchingChannel_iff.2 hm⟩
    · exact .inr ⟨id, n, ⟨hn, hmatches⟩, rfl⟩

/-- Whatever `matching` gives has the property `P` and would be filed again. -/
theorem Holds.mem_matching {chain : ChainHash} {P : Message → Prop} (h : s.Holds chain P)
    (hm : m ∈ s.matching f) : (∃ f, m.filing? chain = some f) ∧ P m := by
  obtain ⟨id, r, hr, u, hu, -, hm⟩ | ⟨id, n, hn, -, rfl⟩ := mem_matching_iff.1 hm
  · refine h.mem_messages hr (List.mem_cons.2 ?_)
    obtain rfl | rfl := hm
    · exact .inl rfl
    · exact .inr (List.mem_map_of_mem hu)
  · obtain ⟨hfrom, -⟩ := h.node id n hn
    exact ⟨⟨_, hfrom.filing?⟩, hfrom.property⟩

end ChannelGossip.Store
