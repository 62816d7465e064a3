import ChannelGossip.Proofs.Store.History
import ChannelGossip.Proofs.Store.Matching

/-! # What a store keeps

Whatever is stored was accepted at some time, and what a store has something as new as in its place
will never be accepted again.  Main statements:

* `Store.Keeps`, `Store.Keeps.of_fileMessage`   what is stored, and how it came in
* `Store.Keeps.mem_matching`   what is stored is sent to those who ask for its time
* `Store.Covers`, `Store.covers_file`   what is no news any more: anything that has been filed
* `Store.Covers.not_accepts`, `Store.Covers.fileAll`   that is how it stays -/

namespace ChannelGossip.Store

variable {chain : ChainHash} {s : Store} {m : Message} {f g : Filing}

/-! ## What is stored -/

/-- A filing is stored. -/
def Keeps (s : Store) : Filing → Prop
  | .channel a => ∃ id r, s.channels.find? id = some r ∧ r.announcement = a
  | .update u => ∃ id r, s.channels.find? id = some r ∧ u ∈ r.updates
  | .node n => ∃ id, s.nodes.find? id = some n

/-- What is stored is in `matching` of every filter that `matches` its time. -/
theorem Keeps.mem_matching {filter : GossipTimestampFilter} {timestamp : UInt32} (h : s.Keeps g)
    (htime : g.timestamp? = some timestamp) (hmatches : filter.matches timestamp) :
    g.message ∈ s.matching filter := by
  rw [mem_matching_iff]
  cases g with
  | channel a => cases htime
  | update u =>
    obtain ⟨id, r, hr, hu⟩ := h
    obtain rfl := Option.some.inj htime
    exact .inl ⟨id, r, hr, u, hu, hmatches, .inr rfl⟩
  | node n =>
    obtain ⟨id, hn⟩ := h
    obtain rfl := Option.some.inj htime
    exact .inr ⟨id, n, hn, hmatches, rfl⟩

/-- `file` stores an accepted filing and nothing else that is not stored already. -/
theorem Keeps.of_file (haccepts : s.Accepts f) (h : (s.file f).Keeps g) : s.Keeps g ∨ f = g := by
  -- By the sort of what was filed and of what is found: they differ, and then it was there before,
  -- or the entry is the one that was filed or another one.
  cases f with
  | channel a =>
    rw [file_channel_of_none haccepts] at h
    cases g with
    | channel b =>
      obtain ⟨id, r, hr, rfl⟩ := h
      obtain ⟨-, rfl⟩ | ⟨-, hr⟩ := Table.find?_insert_eq_some_iff.1 hr
      · exact .inr rfl
      · exact .inl ⟨id, r, hr, rfl⟩
    | update v =>
      obtain ⟨id, r, hr, hv⟩ := h
      obtain ⟨-, rfl⟩ | ⟨-, hr⟩ := Table.find?_insert_eq_some_iff.1 hr
      · cases hv
      · exact .inl ⟨id, r, hr, hv⟩
    | node n => exact .inl h
  | update u =>
    obtain ⟨r, hr, hnewer⟩ := haccepts
    rw [file_update_of_newer hr hnewer] at h
    cases g with
    | channel b =>
      obtain ⟨id, r', hr', rfl⟩ := h
      obtain ⟨-, rfl⟩ | ⟨-, hr'⟩ := Table.find?_insert_eq_some_iff.1 hr'
      · exact .inl ⟨_, r, hr, (r.announcement_withUpdate u).symm⟩
      · exact .inl ⟨id, r', hr', rfl⟩
    | update v =>
      obtain ⟨id, r', hr', hv⟩ := h
      obtain ⟨-, rfl⟩ | ⟨-, hr'⟩ := Table.find?_insert_eq_some_iff.1 hr'
      · obtain ⟨d, hd⟩ := ChannelRecord.mem_updates_iff.1 hv
        rw [ChannelRecord.newest_withUpdate] at hd
        split at hd
        · exact .inr (congrArg Filing.update (Option.some.inj hd))
        · exact .inl ⟨_, r, hr, ChannelRecord.mem_updates_iff.2 ⟨d, hd⟩⟩
      · exact .inl ⟨id, r', hr', hv⟩
    | node n => exact .inl h
  | node n =>
    rw [file_node_of_newer haccepts] at h
    cases g with
    | node n' =>
      obtain ⟨id, hn'⟩ := h
      obtain ⟨-, rfl⟩ | ⟨-, hn'⟩ := Table.find?_insert_eq_some_iff.1 hn'
      · exact .inr rfl
      · exact .inl ⟨id, hn'⟩
    | channel b => exact .inl h
    | update v => exact .inl h

/-- What is stored after `fileMessage` was stored before, or it is the message that is accepted. -/
theorem Keeps.of_fileMessage (h : (s.fileMessage chain m).Keeps g) :
    s.Keeps g ∨ m.filing? chain = some g ∧ s.Accepts g := by
  by_cases hlearns : s.Learns chain m
  · obtain ⟨f, hf, haccepts⟩ := learns_iff.1 hlearns
    rw [fileMessage_of_some hf] at h
    obtain hkept | rfl := Keeps.of_file haccepts h
    · exact .inl hkept
    · exact .inr ⟨hf, haccepts⟩
  · rw [fileMessage_eq_self hlearns] at h
    exact .inl h

/-! ## What is no news any more -/

/-- There is something as new in the place of a filing. -/
def Covers (s : Store) : Filing → Prop
  | .channel a => ∃ r, s.channels.find? a.contents.shortChannelId = some r
  | .update u => ∃ r current, s.channels.find? u.contents.shortChannelId = some r ∧
      r.newest u.contents.direction = some current ∧
      u.contents.timestamp ≤ current.contents.timestamp
  | .node n => ∃ current, s.nodes.find? n.contents.nodeId = some current ∧
      n.contents.timestamp ≤ current.contents.timestamp

/-- A filing that the store `Covers` is not accepted. -/
theorem Covers.not_accepts (h : s.Covers f) : ¬s.Accepts f := by
  intro haccepts
  cases f with
  | channel a =>
    obtain ⟨r, hr⟩ := h
    cases hr.symm.trans haccepts
  | update u =>
    obtain ⟨r, current, hr, hcurrent, hle⟩ := h
    obtain ⟨r', hr', hnewer⟩ := haccepts
    obtain rfl := Option.some.inj (hr.symm.trans hr')
    exact absurd (hnewer current hcurrent) (UInt32.not_lt.2 hle)
  | node n =>
    obtain ⟨current, hcurrent, hle⟩ := h
    exact absurd (haccepts current hcurrent) (UInt32.not_lt.2 hle)

/-- After `file` the store `Covers` the filing, unless by `hknown` it is an update of a channel that
    is not known. -/
theorem covers_file
    (hknown : ∀ u, f = .update u → ∃ r, s.channels.find? u.contents.shortChannelId = some r) :
    (s.file f).Covers f := by
  cases f with
  | channel a =>
    cases hr : s.channels.find? a.contents.shortChannelId with
    | none =>
      rw [file_channel_of_none hr]
      exact ⟨_, by rw [Table.find?_insert, if_pos rfl]⟩
    | some r =>
      rw [file_channel_of_some hr]
      exact ⟨r, hr⟩
  | update u =>
    obtain ⟨r, hr⟩ := hknown u rfl
    -- Either the update is stored now, or what kept it out is.
    by_cases hnewer : ∀ current ∈ r.newest u.contents.direction,
        current.contents.timestamp < u.contents.timestamp
    · rw [file_update_of_newer hr hnewer]
      refine ⟨r.withUpdate u, u, by rw [Table.find?_insert, if_pos rfl], ?_, UInt32.le_refl _⟩
      rw [ChannelRecord.newest_withUpdate, if_pos rfl]
    · rw [file_update_of_not_newer hr hnewer]
      simp only [not_forall, UInt32.not_lt] at hnewer
      obtain ⟨current, hcurrent, hle⟩ := hnewer
      exact ⟨r, current, hr, hcurrent, hle⟩
  | node n =>
    by_cases hnewer : ∀ current ∈ s.nodes.find? n.contents.nodeId,
        current.contents.timestamp < n.contents.timestamp
    · rw [file_node_of_newer hnewer]
      exact ⟨n, by rw [Table.find?_insert, if_pos rfl], UInt32.le_refl _⟩
    · rw [file_node_of_not_newer hnewer]
      simp only [not_forall, UInt32.not_lt] at hnewer
      obtain ⟨current, hcurrent, hle⟩ := hnewer
      exact ⟨current, hcurrent, hle⟩

/-- What `keepNewest` keeps does not get older. -/
theorem exists_keepNewest_ge {α : Type} (time : α → UInt32) (current : α) (a : Option α) :
    ∃ c, keepNewest time (some current) a = some c ∧ time current ≤ time c := by
  cases a with
  | none => exact ⟨current, rfl, UInt32.le_refl _⟩
  | some a =>
    -- Only something newer takes the place.
    by_cases hlt : time current < time a
    · exact ⟨a, if_pos hlt, UInt32.le_of_lt hlt⟩
    · exact ⟨current, if_neg hlt, UInt32.le_refl _⟩

/-- `fileMessage` keeps `Covers`. -/
theorem Covers.fileMessage (h : s.Covers f) (chain : ChainHash) (m : Message) :
    (s.fileMessage chain m).Covers f := by
  cases f with
  | channel a =>
    obtain ⟨r, hr⟩ := h
    obtain ⟨r', hr', -⟩ := find?_fileMessage_of_some chain m hr
    exact ⟨r', hr'⟩
  | update u =>
    obtain ⟨r, current, hr, hcurrent, hle⟩ := h
    obtain ⟨r', hr', -, hnewest⟩ := find?_fileMessage_of_some chain m hr
    obtain ⟨c, hc, hle'⟩ := exists_keepNewest_ge (·.contents.timestamp) current
      (m.updateOf? chain u.contents.shortChannelId u.contents.direction)
    exact ⟨r', c, hr', by rw [hnewest, hcurrent, hc], UInt32.le_trans hle hle'⟩
  | node n =>
    obtain ⟨current, hcurrent, hle⟩ := h
    obtain ⟨c, hc, hle'⟩ := exists_keepNewest_ge (·.contents.timestamp) current
      (m.nodeAnnouncementOf? n.contents.nodeId)
    exact ⟨c, by rw [find?_nodes_fileMessage, hcurrent, hc], UInt32.le_trans hle hle'⟩

/-- `fileAll` keeps `Covers`. -/
theorem Covers.fileAll (h : s.Covers f) (chain : ChainHash) (ms : List Message) :
    (s.fileAll chain ms).Covers f := by
  induction ms generalizing s with
  | nil => exact h
  | cons m ms ih =>
    rw [fileAll_cons]
    exact ih (h.fileMessage chain m)

/-- A channel that has `updates` keeps having some after `fileMessage`. -/
theorem updates_fileMessage_ne_nil {id : ShortChannelId} (h : s.updates id ≠ [])
    (chain : ChainHash) (m : Message) : (s.fileMessage chain m).updates id ≠ [] := by
  cases hr : s.channels.find? id with
  | none =>
    rw [updates, hr] at h
    exact absurd rfl h
  | some r =>
    rw [updates, hr, Option.map_some, Option.getD_some, ne_eq, ChannelRecord.updates_eq_nil_iff,
      not_forall] at h
    obtain ⟨d, hd⟩ := h
    obtain ⟨current, hcurrent⟩ := Option.ne_none_iff_exists'.1 hd
    obtain ⟨r', hr', -, hnewest⟩ := find?_fileMessage_of_some chain m hr
    obtain ⟨c, hc, -⟩ :=
      exists_keepNewest_ge (·.contents.timestamp) current (m.updateOf? chain id d)
    rw [updates, hr', Option.map_some, Option.getD_some, ne_eq, ChannelRecord.updates_eq_nil_iff]
    -- There is an update from that end still, maybe a newer one.
    intro hnil
    have hnone := hnil d
    rw [hnewest, hcurrent, hc] at hnone
    cases hnone

end ChannelGossip.Store
