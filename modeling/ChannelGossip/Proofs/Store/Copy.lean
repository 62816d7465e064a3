import ChannelGossip.Proofs.Store.Holds

/-! # Copying a store

A store that is told everything another store knows about some channels, in the order in which
queries are answered, ends up with the same records of these channels and of their nodes and with
nothing else.  It may be told more than once.  Main statements:

* `Store.IsPartOf`   a store that agrees with another on some channels and nodes
* `Store.IsPartOf.fileAll_messages`   the messages of a channel bring its whole record
* `Store.IsPartOf.fileAll_about`   the answer to a query by id brings the listed channels and their
  nodes
* `Store.IsPartOf.fileAll_answers`   and so do the answers to several queries -/

namespace ChannelGossip

/-! ## Channel records -/

namespace ChannelRecord

/-- A record is its announcement and its `newest` updates. -/
theorem ext_newest {r r' : ChannelRecord} (hannouncement : r.announcement = r'.announcement)
    (hnewest : ∀ d, r.newest d = r'.newest d) : r = r' := by
  have hfirst : r.fromFirst = r'.fromFirst := hnewest .fromFirst
  have hsecond : r.fromSecond = r'.fromSecond := hnewest .fromSecond
  cases r
  cases r'
  simp only at hannouncement hfirst hsecond
  rw [hannouncement, hfirst, hsecond]

/-- The record with the update `u?`, or as it is without one. -/
def withUpdate? (r : ChannelRecord) (u? : Option (Recorded ChannelUpdate)) : ChannelRecord :=
  u?.elim r r.withUpdate

theorem announcement_withUpdate? (r : ChannelRecord) (u? : Option (Recorded ChannelUpdate)) :
    (r.withUpdate? u?).announcement = r.announcement := by
  cases u? with
  | none => rfl
  | some u => exact r.announcement_withUpdate u

/-- By `withUpdate?` an update for a direction without one changes that direction alone. -/
theorem newest_withUpdate? {r : ChannelRecord} {u? : Option (Recorded ChannelUpdate)}
    {d : Direction} (hd : ∀ u ∈ u?, u.contents.direction = d) (hnone : r.newest d = none)
    (d' : Direction) : (r.withUpdate? u?).newest d' = if d = d' then u? else r.newest d' := by
  cases u? with
  | none =>
    show r.newest d' = _
    split
    · rename_i h
      rw [← h, hnone]
    · rfl
  | some u =>
    show (r.withUpdate u).newest d' = _
    rw [newest_withUpdate, hd u rfl]

/-- A record is its announcement with its updates put in by `withUpdate?` one after the other. -/
theorem withUpdate?_withUpdate? {r : ChannelRecord}
    (hdirection : ∀ d u, r.newest d = some u → u.contents.direction = d) :
    (withUpdate? { announcement := r.announcement } (r.newest .fromFirst)).withUpdate?
      (r.newest .fromSecond) = r := by
  have hfirst : ∀ u ∈ r.newest .fromFirst, u.contents.direction = .fromFirst :=
    hdirection .fromFirst
  have hsecond : ∀ u ∈ r.newest .fromSecond, u.contents.direction = .fromSecond :=
    hdirection .fromSecond
  have hnone : (withUpdate? { announcement := r.announcement } (r.newest .fromFirst)).newest
      .fromSecond = none := newest_withUpdate? hfirst rfl .fromSecond
  -- Each of the two updates ends up in its own direction, whichever came first.
  refine ext_newest ?_ fun d => ?_
  · rw [announcement_withUpdate?, announcement_withUpdate?]
  · rw [newest_withUpdate? hsecond hnone, newest_withUpdate? hfirst rfl]
    cases d with
    | fromFirst => rfl
    | fromSecond => rfl

end ChannelRecord

namespace Store

/-! ## Messages that change nothing -/

/-- Messages that change nothing by `fileMessage` change nothing together. -/
theorem fileAll_eq_self {chain : ChainHash} {s : Store} {ms : List Message}
    (h : ∀ m ∈ ms, s.fileMessage chain m = s) : s.fileAll chain ms = s := by
  induction ms with
  | nil => rfl
  | cons m ms ih =>
    rw [fileAll_cons, h m List.mem_cons_self]
    exact ih fun m' hm' => h m' (List.mem_cons_of_mem m hm')

/-! ## One more channel -/

/-- `s'` is `s` with the record `r` under `id` and is the same otherwise. -/
structure Puts (s : Store) (id : ShortChannelId) (r : ChannelRecord) (s' : Store) : Prop where
  self : s'.channels.find? id = some r
  other : ∀ id', id ≠ id' → s'.channels.find? id' = s.channels.find? id'
  nodes : s'.nodes = s.nodes

/-- Of two `Puts` under one id the last counts. -/
theorem Puts.trans {s s' s'' : Store} {id : ShortChannelId} {r r' : ChannelRecord}
    (h : s.Puts id r s') (h' : s'.Puts id r' s'') : s.Puts id r' s'' where
  self := h'.self
  other id' hid' := (h'.other id' hid').trans (h.other id' hid')
  nodes := h'.nodes.trans h.nodes

theorem puts_insert (s : Store) (id : ShortChannelId) (r : ChannelRecord) :
    s.Puts id r { s with channels := s.channels.insert id r } where
  self := by rw [Table.find?_insert, if_pos rfl]
  other id' hid' := by rw [Table.find?_insert, if_neg hid']
  nodes := rfl

variable {chain : ChainHash} {P : Message → Prop} {s : Store} {r : ChannelRecord}

/-- The announcement of a channel that is not stored `Puts` its record without any updates. -/
theorem puts_announcement {a : Recorded ChannelAnnouncement}
    (ha : (Filing.channel a).IsFrom chain P)
    (hnone : s.channels.find? a.contents.shortChannelId = none) :
    s.Puts a.contents.shortChannelId { announcement := a } (s.fileMessage chain a.message) := by
  have hfile : s.fileMessage chain a.message = s.file (.channel a) := ha.fileMessage s
  rw [hfile, file_channel_of_none hnone]
  exact s.puts_insert _ _

/-- An update for a direction without one `Puts` the record that has it. -/
theorem puts_update? {u? : Option (Recorded ChannelUpdate)} {id : ShortChannelId} {d : Direction}
    (hu : ∀ u ∈ u?, (Filing.update u).IsFrom chain P ∧ u.contents.shortChannelId = id ∧
      u.contents.direction = d)
    (hr : s.channels.find? id = some r) (hnone : r.newest d = none) :
    s.Puts id (r.withUpdate? u?) (s.fileAll chain (u?.toList.map Recorded.message)) := by
  cases u? with
  | none => exact ⟨hr, fun _ _ => rfl, rfl⟩
  | some u =>
    obtain ⟨hfrom, rfl, rfl⟩ := hu u rfl
    have hnewer : ∀ current ∈ r.newest u.contents.direction,
        current.contents.timestamp < u.contents.timestamp := by
      rw [hnone]
      nofun
    have hfile : s.fileMessage chain u.message = s.file (.update u) := hfrom.fileMessage s
    show s.Puts _ (r.withUpdate u) (s.fileMessage chain u.message)
    rw [hfile, file_update_of_newer hr hnewer]
    exact s.puts_insert _ _

/-- The `messages` of a channel that is not stored put its whole record. -/
theorem puts_messages {full : Store} (hfull : full.Holds chain P) {id : ShortChannelId}
    (hr : full.channels.find? id = some r) (hnone : s.channels.find? id = none) :
    s.Puts id r (s.fileAll chain r.messages) := by
  have hdirection : ∀ d u, r.newest d = some u → (Filing.update u).IsFrom chain P ∧
      u.contents.shortChannelId = id ∧ u.contents.direction = d :=
    fun d u hu => hfull.update id r d u hr hu
  obtain ⟨hfrom, hid⟩ := hfull.channel id r hr
  have hrecord := ChannelRecord.withUpdate?_withUpdate? fun d u hu => (hdirection d u hu).2.2
  -- The announcement comes first, so that the updates find their channel.
  have hannouncement := puts_announcement hfrom (hid ▸ hnone)
  rw [hid] at hannouncement
  have hfirst := puts_update? (hdirection .fromFirst) hannouncement.self rfl
  have hnosecond := ChannelRecord.newest_withUpdate? (r := { announcement := r.announcement })
    (fun u hu => (hdirection .fromFirst u hu).2.2) rfl .fromSecond
  have hsecond := puts_update? (hdirection .fromSecond) hfirst.self hnosecond
  have hall := hannouncement.trans (hfirst.trans hsecond)
  rw [hrecord] at hall
  rw [ChannelRecord.messages, fileAll_cons, ChannelRecord.updates, List.map_append, fileAll_append]
  exact hall

/-- The `messages` of a channel that is recorded already change nothing. -/
theorem fileAll_messages_of_some {full : Store} (hfull : full.Holds chain P) {id : ShortChannelId}
    (hr : full.channels.find? id = some r) (hsome : s.channels.find? id = some r) :
    s.fileAll chain r.messages = s := by
  refine fileAll_eq_self fun m hm => ?_
  rw [ChannelRecord.messages, List.mem_cons, List.mem_map] at hm
  rcases hm with rfl | hm
  · obtain ⟨hfrom, hid⟩ := hfull.channel id r hr
    have hfile : s.fileMessage chain r.announcement.message = s.file (.channel r.announcement) :=
      hfrom.fileMessage s
    rw [hfile]
    exact file_channel_of_some (hid ▸ hsome)
  · obtain ⟨u, hu, rfl⟩ := hm
    obtain ⟨d, hd⟩ := ChannelRecord.mem_updates_iff.1 hu
    obtain ⟨hfrom, rfl, rfl⟩ := hfull.update id r d u hr hd
    have hfile : s.fileMessage chain u.message = s.file (.update u) := hfrom.fileMessage s
    rw [hfile]
    -- The update is stored already, and it is not newer than itself.
    refine file_update_of_not_newer hsome fun hnewer => ?_
    exact absurd (hnewer u hd) (UInt32.lt_irrefl _)

/-! ## Parts of a store -/

/-- `s` holds of `full` the channels with `D` and the nodes with `N`, and nothing else. -/
structure IsPartOf (s full : Store) (D : ShortChannelId → Prop) (N : Point → Prop) : Prop where
  channels : ∀ id r, s.channels.find? id = some r ↔ full.channels.find? id = some r ∧ D id
  nodes : ∀ id n, s.nodes.find? id = some n ↔ full.nodes.find? id = some n ∧ N id

namespace IsPartOf

variable {full : Store} {D D' : ShortChannelId → Prop} {N N' : Point → Prop}

/-- The empty store is the part of `full` without anything. -/
theorem empty (full : Store) : Store.empty.IsPartOf full (fun _ => False) fun _ => False where
  channels id r := by
    rw [and_false, iff_false]
    nofun
  nodes id n := by
    rw [and_false, iff_false]
    nofun

/-- `IsPartOf` depends on `D` and `N` only where `full` holds something. -/
theorem congr (h : s.IsPartOf full D N)
    (hD : ∀ id r, full.channels.find? id = some r → (D id ↔ D' id))
    (hN : ∀ id n, full.nodes.find? id = some n → (N id ↔ N' id)) : s.IsPartOf full D' N' where
  channels id r := by
    rw [h.channels id r]
    exact and_congr_right (hD id r)
  nodes id n := by
    rw [h.nodes id n]
    exact and_congr_right (hN id n)

/-- A channel of `full` is missing in a part or recorded in full. -/
theorem find?_channels (h : s.IsPartOf full D N) {id : ShortChannelId} {r : ChannelRecord}
    (hr : full.channels.find? id = some r) :
    s.channels.find? id = none ∨ s.channels.find? id = some r := by
  cases hs : s.channels.find? id with
  | none => exact .inl rfl
  | some r' =>
    rw [((h.channels id r').1 hs).1] at hr
    exact .inr hr

/-- A node of `full` is missing in a part or the same. -/
theorem find?_nodes (h : s.IsPartOf full D N) {id : Point} {n : Recorded NodeAnnouncement}
    (hn : full.nodes.find? id = some n) :
    s.nodes.find? id = none ∨ s.nodes.find? id = some n := by
  cases hs : s.nodes.find? id with
  | none => exact .inl rfl
  | some n' =>
    rw [((h.nodes id n').1 hs).1] at hn
    exact .inr hn

/-- The `messages` of a channel add its record to the part. -/
theorem fileAll_messages (h : s.IsPartOf full D N) (hfull : full.Holds chain P)
    {id : ShortChannelId} (hr : full.channels.find? id = some r) :
    (s.fileAll chain r.messages).IsPartOf full (fun id' => id = id' ∨ D id') N := by
  rcases h.find?_channels hr with hnone | hsome
  · -- The record is new, and no other one changes.
    have hputs := puts_messages hfull hr hnone
    refine ⟨fun id' r' => ?_, fun k n => ?_⟩
    · by_cases hid : id = id'
      · subst hid
        simp only [hputs.self, hr, true_or, and_true]
      · rw [hputs.other id' hid, h.channels id' r', or_iff_right hid]
    · rw [hputs.nodes]
      exact h.nodes k n
  · -- The record is there already, so that its id is one of those of the part.
    have hD : D id := ((h.channels id r).1 hsome).2
    rw [fileAll_messages_of_some hfull hr hsome]
    refine h.congr (fun id' r' _ => ?_) fun _ _ _ => Iff.rfl
    exact ⟨.inr, fun hid' => hid'.elim (fun heq => heq ▸ hD) fun hid' => hid'⟩

/-- The announcement of a node adds it to the part. -/
theorem fileMessage_node (h : s.IsPartOf full D N) (hfull : full.Holds chain P) {k : Point}
    {n : Recorded NodeAnnouncement} (hn : full.nodes.find? k = some n) :
    (s.fileMessage chain n.message).IsPartOf full D fun k' => k = k' ∨ N k' := by
  obtain ⟨hfrom, rfl⟩ := hfull.node k n hn
  have hfile : s.fileMessage chain n.message = s.file (.node n) := hfrom.fileMessage s
  rw [hfile]
  rcases h.find?_nodes hn with hnone | hsome
  · have hnewer : ∀ current ∈ s.nodes.find? n.contents.nodeId,
        current.contents.timestamp < n.contents.timestamp := by
      rw [hnone]
      nofun
    rw [file_node_of_newer hnewer]
    refine ⟨h.channels, fun k' n' => ?_⟩
    rw [Table.find?_insert]
    by_cases hk : n.contents.nodeId = k'
    · subst hk
      simp only [if_pos, hn, true_or, and_true]
    · rw [if_neg hk, h.nodes k' n', or_iff_right hk]
  · have hN : N n.contents.nodeId := ((h.nodes _ n).1 hsome).2
    -- The announcement is stored already, and it is not newer than itself.
    have hstale : ¬∀ current ∈ s.nodes.find? n.contents.nodeId,
        current.contents.timestamp < n.contents.timestamp := by
      intro hnewer
      exact absurd (hnewer n hsome) (UInt32.lt_irrefl _)
    rw [file_node_of_not_newer hstale]
    refine h.congr (fun _ _ _ => Iff.rfl) fun k' n' _ => ?_
    exact ⟨.inr, fun hk' => hk'.elim (fun heq => heq ▸ hN) fun hk' => hk'⟩

/-- The announcements of several nodes add those that `full` holds. -/
theorem fileAll_nodes (h : s.IsPartOf full D N) (hfull : full.Holds chain P) (ks : List Point) :
    (s.fileAll chain (ks.filterMap fun k => (full.nodes.find? k).map Recorded.message)).IsPartOf
      full D fun k => k ∈ ks ∨ N k := by
  -- Node by node; each one makes the part larger.
  induction ks generalizing s N with
  | nil =>
    refine h.congr (fun _ _ _ => Iff.rfl) fun k n _ => ?_
    simp
  | cons k ks ih =>
    cases hk : full.nodes.find? k with
    | none =>
      rw [List.filterMap_cons_none (by rw [hk]; rfl)]
      refine (ih h).congr (fun _ _ _ => Iff.rfl) fun k' n hk' => ?_
      -- A node that is not stored is none of those that matter.
      have hne : k' ≠ k := by
        intro heq
        rw [heq, hk] at hk'
        cases hk'
      simp [hne]
    | some n =>
      rw [List.filterMap_cons_some (by rw [hk]; rfl), fileAll_cons]
      refine (ih (h.fileMessage_node hfull hk)).congr (fun _ _ _ => Iff.rfl) fun k' n' _ => ?_
      simp only [List.mem_cons]
      grind

/-- What `about` tells of the listed channels adds them and their nodes. -/
theorem fileAll_about (h : s.IsPartOf full D N) (hfull : full.Holds chain P)
    (considered : List Point) (hconsidered : ∀ k ∈ considered, N k) (ids : List ShortChannelId) :
    (s.fileAll chain (full.about considered ids)).IsPartOf full (fun id => id ∈ ids ∨ D id)
      fun k => (∃ id ∈ ids, ∃ r ∈ full.channels.find? id, k ∈ r.nodeIds) ∨ N k := by
  -- The invariant: whatever node was considered before is in the part already.
  induction ids generalizing s D N considered with
  | nil =>
    refine h.congr (fun id r _ => ?_) fun k n _ => ?_
    · simp
    · simp
  | cons id ids ih =>
    cases hid : full.channels.find? id with
    | none =>
      simp only [about, hid]
      -- An unknown channel is none of those that matter.
      refine (ih h considered hconsidered).congr (fun id' r hid' => ?_) fun k n _ => ?_
      · have hne : id' ≠ id := by
          intro heq
          rw [heq, hid] at hid'
          cases hid'
        simp [hne]
      · simp [hid]
    | some r =>
      simp only [about, hid, fileAll_append]
      -- The channel comes first and then those of its nodes that were not considered.
      have hfresh := (h.fileAll_messages hfull hid).fileAll_nodes hfull
        (r.nodeIds.eraseDups.filter fun node => !considered.contains node)
      refine (ih hfresh _ fun k hk => ?_).congr (fun id' r' _ => ?_) fun k n _ => ?_
      · rcases List.mem_append.1 hk with hk | hk
        · exact .inl hk
        · exact .inr (hconsidered k hk)
      · grind
      · -- A node of the channel that is left out came up before.
        have hfreshIff : k ∈ r.nodeIds.eraseDups.filter (fun node => !considered.contains node) ↔
            k ∈ r.nodeIds ∧ k ∉ considered := by
          rw [List.mem_filter, List.mem_eraseDups]
          simp
        have hold : k ∈ considered → N k := hconsidered k
        rw [hfreshIff]
        grind

/-- Several answers by `about`, each with the message `done` at its end about which nothing is
    filed, add what was queried. -/
theorem fileAll_answers (h : s.IsPartOf full D N) (hfull : full.Holds chain P) {done : Message}
    (hdone : done.filing? chain = none) (queries : List (List ShortChannelId)) :
    (s.fileAll chain (queries.flatMap fun ids => full.about [] ids ++ [done])).IsPartOf full
      (fun id => id ∈ queries.flatten ∨ D id)
      fun k => (∃ id ∈ queries.flatten, ∃ r ∈ full.channels.find? id, k ∈ r.nodeIds) ∨ N k := by
  induction queries generalizing s D N with
  | nil =>
    refine h.congr (fun id r _ => ?_) fun k n _ => ?_
    · simp
    · simp
  | cons ids queries ih =>
    -- Each answer starts anew, so that nothing is considered before it.
    have habout := h.fileAll_about hfull [] (fun k hk => absurd hk List.not_mem_nil) ids
    simp only [List.flatMap_cons, fileAll_append, fileAll_cons, fileAll_nil,
      fileMessage_of_none hdone]
    refine (ih habout).congr (fun id r _ => ?_) fun k n _ => ?_
    · rw [List.flatten_cons, List.mem_append, or_left_comm, or_assoc]
    · simp only [List.flatten_cons, List.mem_append]
      grind

end IsPartOf

end Store

end ChannelGossip
