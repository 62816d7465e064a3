import ChannelGossip.Proofs.Contents
import ChannelGossip.Proofs.Store.Holds

/-! # Announcements before updates

Whenever a store answers from what it holds, it tells of a channel before it tells of its updates.
Main statements:

* `Preceded`   the lists of messages in which one sort comes only after another
* `Introduced`   those in which a channel is announced before it is updated
* `Store.Holds.introduced_about`, `Store.Holds.introduced_matching`   the answers to queries by id
  and to filters are of this sort -/

namespace ChannelGossip

namespace Message

/-- A message announces the channel `id`. -/
def Announces (m : Message) (id : ShortChannelId) : Prop :=
  ∃ a : ChannelAnnouncement, m.contents ChannelAnnouncement = .ok a ∧ a.shortChannelId = id

/-- A message updates the channel `id`. -/
def Updates (m : Message) (id : ShortChannelId) : Prop :=
  ∃ u : ChannelUpdate, m.contents ChannelUpdate = .ok u ∧ u.shortChannelId = id

variable {m : Message} {id : ShortChannelId}

theorem Announces.kind?_eq (h : m.Announces id) : m.kind? = some .channelAnnouncement := by
  obtain ⟨a, ha, -⟩ := h
  exact kind?_of_contents ha

theorem Updates.kind?_eq (h : m.Updates id) : m.kind? = some .channelUpdate := by
  obtain ⟨u, hu, -⟩ := h
  exact kind?_of_contents hu

/-- Only channel updates are messages of `Updates`. -/
theorem not_updates_of_kind? {kind : MessageKind} (h : m.kind? = some kind)
    (hkind : kind ≠ .channelUpdate) : ¬m.Updates id := by
  intro hupdates
  rw [hupdates.kind?_eq, Option.some.injEq] at h
  exact hkind h.symm

/-- A message that `toMessage` makes of other contents updates nothing. -/
theorem not_updates_toMessage {α : Type} [Contents α] [LawfulContents α] (a : α)
    (h : Contents.kind α ≠ .channelUpdate) : ¬(Contents.toMessage a).Updates id :=
  not_updates_of_kind? (kind?_of_contents (contents_toMessage a)) h

end Message

/-! ## Messages that come after others -/

/-- A list of messages in which every one of the sort `Q` comes after one of the sort `P`. -/
def Preceded (P Q : Message → Prop) (ms : List Message) : Prop :=
  ∀ before m after, ms = before ++ m :: after → Q m → ∃ a ∈ before, P a

namespace Preceded

variable {P Q : Message → Prop} {ms ms' : List Message}

theorem of_none (h : ∀ m ∈ ms, ¬Q m) : Preceded P Q ms := by
  intro before m after hms hm
  exact absurd hm (h m (hms ▸ List.mem_append_right _ List.mem_cons_self))

/-- After a message of the sort `P` anything may follow in `Preceded`. -/
theorem cons {a : Message} (hP : P a) (hQ : ¬Q a) : Preceded P Q (a :: ms) := by
  intro before m after hms hm
  cases before with
  | nil =>
    obtain ⟨rfl, -⟩ := List.cons.inj hms
    exact absurd hm hQ
  | cons b before =>
    obtain ⟨rfl, -⟩ := List.cons.inj hms
    exact ⟨a, List.mem_cons_self, hP⟩

theorem append (h : Preceded P Q ms) (h' : Preceded P Q ms') : Preceded P Q (ms ++ ms') := by
  intro before m after hms hm
  obtain ⟨between, rfl, hms'⟩ | ⟨between, hms, hafter⟩ := List.append_eq_append_iff.1 hms
  · -- The message is in the second list.
    obtain ⟨a, ha, hP⟩ := h' between m after hms' hm
    exact ⟨a, List.mem_append_right _ ha, hP⟩
  · cases between with
    | nil =>
      obtain ⟨a, ha, -⟩ := h' [] m after hafter.symm hm
      cases ha
    | cons b between =>
      obtain ⟨rfl, -⟩ := List.cons.inj hafter
      exact h before m between hms hm

end Preceded

/-- A list of messages in which every update of a channel comes after an announcement of it. -/
def Introduced (id : ShortChannelId) (ms : List Message) : Prop :=
  ∀ before u after, ms = before ++ u :: after → u.Updates id → ∃ a ∈ before, a.Announces id

namespace Introduced

variable {id : ShortChannelId} {ms ms' : List Message}

theorem iff_preceded : Introduced id ms ↔ Preceded (·.Announces id) (·.Updates id) ms := Iff.rfl

theorem of_no_updates (h : ∀ m ∈ ms, ¬m.Updates id) : Introduced id ms :=
  iff_preceded.2 (.of_none h)

theorem nil : Introduced id [] := of_no_updates (List.forall_mem_nil _)

/-- An announcement introduces whatever comes after it, as `Introduced` says. -/
theorem cons {a : Message} (h : a.Announces id) : Introduced id (a :: ms) :=
  iff_preceded.2 (.cons h (Message.not_updates_of_kind? h.kind?_eq nofun))

theorem append (h : Introduced id ms) (h' : Introduced id ms') : Introduced id (ms ++ ms') :=
  iff_preceded.2 ((iff_preceded.1 h).append (iff_preceded.1 h'))

theorem flatten {parts : List (List Message)} (h : ∀ part ∈ parts, Introduced id part) :
    Introduced id parts.flatten := by
  induction parts with
  | nil => exact nil
  | cons part parts ih =>
    obtain ⟨hpart, hparts⟩ := List.forall_mem_cons.1 h
    exact hpart.append (ih hparts)

/-- `Introduced` is kept by a part from the front. -/
theorem of_isPrefix (h : Introduced id ms) (hfront : ms' <+: ms) : Introduced id ms' := by
  intro before u after hms' hu
  obtain ⟨rest, rfl⟩ := hfront
  exact h before u (after ++ rest) (by rw [hms', List.append_assoc, List.cons_append]) hu

end Introduced

/-! ## Answers from a store -/

namespace Store.Holds

variable {chain : ChainHash} {P : Message → Prop} {s : Store} {id : ShortChannelId}

/-- The stored announcement of a channel announces it by `Announces`. -/
theorem announces (h : s.Holds chain P) {r : ChannelRecord} (hr : s.channels.find? id = some r) :
    r.announcement.message.Announces id := by
  obtain ⟨hfrom, hid⟩ := h.channel id r hr
  obtain ⟨hrecord, -⟩ := Message.filing?_eq_channel_iff.1 hfrom.filing?
  exact ⟨r.announcement.contents, (Message.record_eq_ok_iff.1 hrecord).1, hid⟩

/-- The updates that are stored of a channel update no other by `Updates`. -/
theorem eq_of_updates (h : s.Holds chain P) {r : ChannelRecord} {u : Recorded ChannelUpdate}
    {id' : ShortChannelId} (hr : s.channels.find? id = some r) (hu : u ∈ r.updates)
    (hupdates : u.message.Updates id') : id = id' := by
  obtain ⟨d, hd⟩ := ChannelRecord.mem_updates_iff.1 hu
  obtain ⟨hfrom, hid, -⟩ := h.update id r d u hr hd
  obtain ⟨hrecord, -⟩ := Message.filing?_eq_update_iff.1 hfrom.filing?
  obtain ⟨u', hu', hid'⟩ := hupdates
  obtain rfl := Except.ok.inj ((Message.record_eq_ok_iff.1 hrecord).1.symm.trans hu')
  exact hid.symm.trans hid'

/-- What is stored of a node is no message of `Updates`. -/
theorem not_updates_node (h : s.Holds chain P) {k : Point} {n : Recorded NodeAnnouncement}
    (hn : s.nodes.find? k = some n) : ¬n.message.Updates id := by
  obtain ⟨hfrom, -⟩ := h.node k n hn
  exact Message.not_updates_of_kind? (Message.kind?_of_filing? hfrom.filing?) nofun

/-- The announcement of a channel introduces its own updates, and they update no other channel. -/
theorem introduced_cons (h : s.Holds chain P) {r : ChannelRecord} {id' : ShortChannelId}
    {us : List (Recorded ChannelUpdate)} (hr : s.channels.find? id' = some r)
    (hus : ∀ u ∈ us, u ∈ r.updates) :
    Introduced id (r.announcement.message :: us.map Recorded.message) := by
  have hannounces := h.announces hr
  by_cases hid : id' = id
  · -- Either it is this channel, or none of its messages is about the one in question.
    exact .cons (hid ▸ hannounces)
  · refine .of_no_updates (List.forall_mem_cons.2 ⟨?_, fun m hm => ?_⟩)
    · exact Message.not_updates_of_kind? hannounces.kind?_eq nofun
    · obtain ⟨u, hu, rfl⟩ := List.mem_map.1 hm
      exact fun hupdates => hid (h.eq_of_updates hr (hus u hu) hupdates)

/-- `about` introduces every channel. -/
theorem introduced_about (h : s.Holds chain P) (considered : List Point)
    (ids : List ShortChannelId) : Introduced id (s.about considered ids) := by
  induction ids generalizing considered with
  | nil => exact .nil
  | cons id' ids ih =>
    cases hr : s.channels.find? id' with
    | none =>
      simp only [about, hr]
      exact ih considered
    | some r =>
      simp only [about, hr]
      refine ((h.introduced_cons hr fun _ hu => hu).append (.of_no_updates fun m hm => ?_)).append
        (ih _)
      -- The announcements of nodes are behind those of the channel.
      obtain ⟨k, -, hk⟩ := List.mem_filterMap.1 hm
      obtain ⟨n, hn, rfl⟩ := Option.map_eq_some_iff.1 hk
      exact h.not_updates_node hn

/-- `matchingChannel` introduces its channel. -/
theorem introduced_matchingChannel (h : s.Holds chain P) (f : GossipTimestampFilter)
    {r : ChannelRecord} {id' : ShortChannelId} (hr : s.channels.find? id' = some r) :
    Introduced id (matchingChannel f r) := by
  have hfilter : ∀ u ∈ r.updates.filter fun u => f.matches u.contents.timestamp, u ∈ r.updates :=
    fun _ hu => (List.mem_filter.1 hu).1
  unfold matchingChannel
  split
  · exact .nil
  · exact h.introduced_cons hr hfilter

/-- `matching` introduces every channel. -/
theorem introduced_matching (h : s.Holds chain P) (f : GossipTimestampFilter) :
    Introduced id (s.matching f) := by
  rw [matching]
  refine .append ?_ (.of_no_updates fun m hm => ?_)
  · rw [List.flatMap_def]
    refine .flatten fun part hpart => ?_
    obtain ⟨⟨id', r⟩, hr, rfl⟩ := List.mem_map.1 hpart
    have hentry := List.mem_mergeSort.1 hr
    exact h.introduced_matchingChannel f ((Table.mem_entries_iff _ id' r).1 hentry)
  · obtain ⟨⟨k, n⟩, hn, rfl⟩ := List.mem_map.1 hm
    have hentry := (List.mem_filter.1 (List.mem_mergeSort.1 hn)).1
    exact h.not_updates_node ((Table.mem_entries_iff _ k n).1 hentry)

end Store.Holds

end ChannelGossip
