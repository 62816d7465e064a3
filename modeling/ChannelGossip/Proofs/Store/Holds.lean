import ChannelGossip.Proofs.Store.Places

/-! # What a store holds

Whatever a store holds is filed under its own id, next to the message that it is the filing of.
This is an invariant of filing, and so is any property that all filed messages have.  Main
statements:

* `Store.Holds`   the invariant
* `Store.Holds.file`   one filing keeps it
* `Store.Holds.fileAll`   and so do the filings of any messages with the property -/

namespace ChannelGossip

/-- What is filed about a message with the property `P`. -/
structure Filing.IsFrom (chain : ChainHash) (P : Message → Prop) (f : Filing) : Prop where
  filing? : f.message.filing? chain = some f
  property : P f.message

/-- What `filing?` gives for a message with the property is from that message. -/
theorem Filing.isFrom_of_filing? {chain : ChainHash} {P : Message → Prop} {m : Message} {f : Filing}
    (h : m.filing? chain = some f) (hm : P m) : f.IsFrom chain P := by
  have hmessage : f.message = m := Message.message_of_filing? h
  rw [← hmessage] at h hm
  exact ⟨h, hm⟩

/-- A message is filed as the filing that is from it. -/
theorem Filing.IsFrom.fileMessage {chain : ChainHash} {P : Message → Prop} {f : Filing}
    (h : f.IsFrom chain P) (s : Store) : s.fileMessage chain f.message = s.file f :=
  Store.fileMessage_of_some h.filing? s

namespace Store

/-- Every entry of the store is filed under its own id and from a message with the property `P`. -/
structure Holds (chain : ChainHash) (P : Message → Prop) (s : Store) : Prop where
  channel : ∀ id r, s.channels.find? id = some r →
    (Filing.channel r.announcement).IsFrom chain P ∧ r.announcement.contents.shortChannelId = id
  update : ∀ id r d u, s.channels.find? id = some r → r.newest d = some u →
    (Filing.update u).IsFrom chain P ∧ u.contents.shortChannelId = id ∧ u.contents.direction = d
  node : ∀ id n, s.nodes.find? id = some n →
    (Filing.node n).IsFrom chain P ∧ n.contents.nodeId = id

namespace Holds

variable {chain : ChainHash} {P : Message → Prop} {s : Store}

/-- `Holds` place by place: each filing of the store is in its own place and from a message with the
    property. -/
theorem iff_filing? : s.Holds chain P ↔
    ∀ place f, s.filing? place = some f → f.IsFrom chain P ∧ f.place = place := by
  constructor
  · intro h place f hf
    cases place with
    | announcement id =>
      obtain ⟨r, hr, rfl⟩ := filing?_announcement_iff.1 hf
      obtain ⟨hfrom, rfl⟩ := h.channel id r hr
      exact ⟨hfrom, rfl⟩
    | update id d =>
      obtain ⟨r, u, hr, hu, rfl⟩ := filing?_update_iff.1 hf
      obtain ⟨hfrom, rfl, rfl⟩ := h.update id r d u hr hu
      exact ⟨hfrom, rfl⟩
    | node id =>
      obtain ⟨n, hn, rfl⟩ := filing?_node_iff.1 hf
      obtain ⟨hfrom, rfl⟩ := h.node id n hn
      exact ⟨hfrom, rfl⟩
  · intro h
    -- Back again, each kind of entry is the filing of one kind of place.
    refine ⟨fun id r hr => ?_, fun id r d u hr hu => ?_, fun id n hn => ?_⟩
    · obtain ⟨hfrom, hplace⟩ := h (.announcement id) _ (filing?_announcement_iff.2 ⟨r, hr, rfl⟩)
      exact ⟨hfrom, Place.announcement.inj hplace⟩
    · obtain ⟨hfrom, hplace⟩ := h (.update id d) _ (filing?_update_iff.2 ⟨r, u, hr, hu, rfl⟩)
      exact ⟨hfrom, Place.update.inj hplace⟩
    · obtain ⟨hfrom, hplace⟩ := h (.node id) _ (filing?_node_iff.2 ⟨n, hn, rfl⟩)
      exact ⟨hfrom, Place.node.inj hplace⟩

/-- The empty store has no entries for `Holds` to speak of. -/
theorem empty : Store.empty.Holds chain P where
  channel id r h := by cases h
  update id r d u h := by cases h
  node id n h := by cases h

/-- `Holds` of a property is so of a weaker one. -/
theorem imp {Q : Message → Prop} (h : s.Holds chain P) (himp : ∀ m, P m → Q m) :
    s.Holds chain Q := by
  rw [iff_filing?] at h ⊢
  intro place f hf
  obtain ⟨hfrom, hplace⟩ := h place f hf
  exact ⟨⟨hfrom.filing?, himp _ hfrom.property⟩, hplace⟩

/-- `file` keeps `Holds`, if the filing is from a message with the property. -/
theorem file (h : s.Holds chain P) {f : Filing} (hf : f.IsFrom chain P) :
    (s.file f).Holds chain P := by
  rw [iff_filing?] at h ⊢
  intro place g hg
  rcases filing?_file hg with ⟨rfl, rfl⟩ | hg
  · exact ⟨hf, rfl⟩
  · exact h place g hg

/-- `fileMessage` keeps `Holds`, if the message has the property. -/
theorem fileMessage (h : s.Holds chain P) {m : Message} (hm : P m) :
    (s.fileMessage chain m).Holds chain P := by
  cases hfiling : m.filing? chain with
  | none =>
    rw [fileMessage_of_none hfiling]
    exact h
  | some f =>
    rw [fileMessage_of_some hfiling]
    exact h.file (Filing.isFrom_of_filing? hfiling hm)

/-- `fileAll` keeps `Holds`, if all messages have the property. -/
theorem fileAll (h : s.Holds chain P) {ms : List Message} (hms : ∀ m ∈ ms, P m) :
    (s.fileAll chain ms).Holds chain P := by
  -- The invariant holds before each message.
  induction ms generalizing s with
  | nil => exact h
  | cons m ms ih =>
    rw [fileAll_cons]
    exact ih (h.fileMessage (hms m List.mem_cons_self)) fun m' hm' =>
      hms m' (List.mem_cons_of_mem m hm')

/-! ## What is told about channels -/

/-- The `messages` of a stored channel have the property and would be filed again. -/
theorem mem_messages (h : s.Holds chain P) {id : ShortChannelId} {r : ChannelRecord}
    (hr : s.channels.find? id = some r) {m : Message} (hm : m ∈ r.messages) :
    (∃ f, m.filing? chain = some f) ∧ P m := by
  rcases List.mem_cons.1 hm with rfl | hm
  · obtain ⟨hfrom, -⟩ := h.channel id r hr
    exact ⟨⟨_, hfrom.filing?⟩, hfrom.property⟩
  · obtain ⟨u, hu, rfl⟩ := List.mem_map.1 hm
    obtain ⟨d, hd⟩ := ChannelRecord.mem_updates_iff.1 hu
    obtain ⟨hfrom, -⟩ := h.update id r d u hr hd
    exact ⟨⟨_, hfrom.filing?⟩, hfrom.property⟩

/-- Whatever `about` tells has the property and would be filed again. -/
theorem mem_about (h : s.Holds chain P) {considered : List Point} {ids : List ShortChannelId}
    {m : Message} (hm : m ∈ s.about considered ids) : (∃ f, m.filing? chain = some f) ∧ P m := by
  -- Channel by channel; nodes that came up are left out of what follows, so `considered` is
  -- arbitrary.
  induction ids generalizing considered with
  | nil => cases hm
  | cons id ids ih =>
    cases hid : s.channels.find? id with
    | none =>
      -- Nothing is told about an unknown channel.
      simp only [about, hid] at hm
      exact ih hm
    | some r =>
      simp only [about, hid, List.mem_append, List.mem_filterMap, Option.map_eq_some_iff] at hm
      -- A message of the channel, of one of its nodes, or of a channel that is listed later.
      rcases hm with (hm | hm) | hm
      · exact h.mem_messages hid hm
      · obtain ⟨k, -, n, hn, rfl⟩ := hm
        obtain ⟨hfrom, -⟩ := h.node k n hn
        exact ⟨⟨_, hfrom.filing?⟩, hfrom.property⟩
      · exact ih hm

end Holds

end Store

end ChannelGossip
