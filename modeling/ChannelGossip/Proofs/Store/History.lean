import Mathlib.Data.List.MinMax
import Mathlib.Data.List.TakeWhile
import ChannelGossip.Proofs.Store.Holds

/-! # What a store recalls

A store that has filed messages one after the other recalls of each channel the first announcement,
of each end of a channel the newest update since then, and of each node the newest announcement.
Of several that are equally new it is the one that came first.  Main statements:

* `Store.Recalls`   a store as a function of the messages that it has filed
* `Store.Recalls.fileMessage`, `Store.recalls_fileAll`   one more message, and all of them
* `Store.Learns`, `Store.learns_iff`, `Store.fileMessage_eq_self`   which messages change a store -/

namespace ChannelGossip

/-! ## What a message is about -/

namespace Message

/-- The announcement of the given channel on the given chain, if that is what a message is. -/
def announcementOf? (chain : ChainHash) (id : ShortChannelId) (m : Message) :
    Option (Recorded ChannelAnnouncement) :=
  (m.record ChannelAnnouncement).toOption.filter fun a =>
    a.contents.chainHash = chain ∧ a.contents.shortChannelId = id

/-- The update of the given channel on the given chain from the given end, if that is what a message
    is. -/
def updateOf? (chain : ChainHash) (id : ShortChannelId) (d : Direction) (m : Message) :
    Option (Recorded ChannelUpdate) :=
  (m.record ChannelUpdate).toOption.filter fun u =>
    u.contents.chainHash = chain ∧ u.contents.shortChannelId = id ∧ u.contents.direction = d

/-- The announcement of the given node with addresses that can be read, if that is what a message
    is. -/
def nodeAnnouncementOf? (id : Point) (m : Message) : Option (Recorded NodeAnnouncement) :=
  (m.record NodeAnnouncement).toOption.filter fun n =>
    n.contents.nodeId = id ∧ n.contents.netAddresses.isOk

variable {chain : ChainHash} {m : Message}

private theorem toOption_eq_some_iff {α : Type} {x : Except Error α} {a : α} :
    x.toOption = some a ↔ x = .ok a := by
  cases x with
  | error e => simp [Except.toOption]
  | ok b => simp [Except.toOption]

/-- `announcementOf?` finds what `filing?` gives, if that is the announcement of the channel. -/
theorem announcementOf?_eq_some_iff {id : ShortChannelId} {a : Recorded ChannelAnnouncement} :
    m.announcementOf? chain id = some a ↔
      m.filing? chain = some (.channel a) ∧ a.contents.shortChannelId = id := by
  rw [announcementOf?, Option.filter_eq_some_iff, toOption_eq_some_iff, filing?_eq_channel_iff,
    decide_eq_true_eq, and_assoc]

/-- `updateOf?` finds what `filing?` gives, if that is an update of the channel from the end `d`. -/
theorem updateOf?_eq_some_iff {id : ShortChannelId} {d : Direction} {u : Recorded ChannelUpdate} :
    m.updateOf? chain id d = some u ↔ m.filing? chain = some (.update u) ∧
      u.contents.shortChannelId = id ∧ u.contents.direction = d := by
  rw [updateOf?, Option.filter_eq_some_iff, toOption_eq_some_iff, filing?_eq_update_iff,
    decide_eq_true_eq, and_assoc]

/-- `nodeAnnouncementOf?` finds what `filing?` gives, if that is the announcement of the node; the
    chain does not matter. -/
theorem nodeAnnouncementOf?_eq_some_iff {id : Point} {n : Recorded NodeAnnouncement} :
    m.nodeAnnouncementOf? id = some n ↔
      m.filing? chain = some (.node n) ∧ n.contents.nodeId = id := by
  have hok : n.contents.netAddresses.isOk = true ↔
      ∃ addresses, n.contents.netAddresses = .ok addresses := by
    cases n.contents.netAddresses with
    | error e => simp [Except.isOk, Except.toBool]
    | ok addresses => simp [Except.isOk, Except.toBool]
  rw [nodeAnnouncementOf?, Option.filter_eq_some_iff, toOption_eq_some_iff, filing?_eq_node_iff,
    decide_eq_true_eq, hok, and_assoc, and_comm (a := n.contents.nodeId = id)]

end Message

/-! ## Keeping the newest -/

section Newest

variable {α β : Type} {time : α → UInt32}

/-- What is kept when something may come in: of two the newer, and of two that are equally new the
    one that was there. -/
def keepNewest (time : α → UInt32) : Option α → Option α → Option α
  | current, none => current
  | none, some a => some a
  | some current, some a => if time current < time a then some a else some current

/-- Keeping the newest by `keepNewest` one by one leaves the first of the newest, which is what
    `argmax` finds. -/
theorem argmax_filterMap_concat (time : α → UInt32) (read : β → Option α) (bs : List β) (b : β) :
    ((bs ++ [b]).filterMap read).argmax (fun a => (time a).toNat) =
      keepNewest time ((bs.filterMap read).argmax fun a => (time a).toNat) (read b) := by
  rw [List.filterMap_append]
  cases hread : read b with
  | none =>
    rw [List.filterMap_cons_none hread, List.filterMap_nil, List.append_nil]
    cases (bs.filterMap read).argmax fun a => (time a).toNat <;> rfl
  | some a =>
    rw [List.filterMap_cons_some hread, List.filterMap_nil, List.argmax_concat]
    cases (bs.filterMap read).argmax fun a => (time a).toNat <;> rfl

/-- `keepNewest` keeps something newer than all that is there. -/
theorem keepNewest_of_newer {current : Option α} {a : α} (h : ∀ c ∈ current, time c < time a) :
    keepNewest time current (some a) = some a := by
  cases current with
  | none => rfl
  | some c => exact if_pos (h c rfl)

/-- `keepNewest` does not keep something that is not newer. -/
theorem keepNewest_of_not_newer {current : Option α} {a : α}
    (h : ¬∀ c ∈ current, time c < time a) : keepNewest time current (some a) = current := by
  cases current with
  | none => exact absurd nofun h
  | some c =>
    refine if_neg fun hlt => h fun c' hc' => ?_
    rw [← Option.some.inj hc']
    exact hlt

end Newest

/-! ## One message -/

/-- The channel that a filing is about. -/
def Filing.channelId? : Filing → Option ShortChannelId
  | channel a => some a.contents.shortChannelId
  | update u => some u.contents.shortChannelId
  | node _ => none

/-- The node that a filing is about. -/
def Filing.nodeId? : Filing → Option Point
  | node n => some n.contents.nodeId
  | _ => none

namespace Message

variable {chain : ChainHash} {m : Message}

/-- `updateOf?` finds nothing if no update from that end is filed. -/
theorem updateOf?_eq_none {id : ShortChannelId} {d : Direction}
    (h : ∀ u, m.filing? chain = some (.update u) →
      ¬(u.contents.shortChannelId = id ∧ u.contents.direction = d)) :
    m.updateOf? chain id d = none := by
  rw [Option.eq_none_iff_forall_ne_some]
  intro u hu
  obtain ⟨hfiling, hslot⟩ := updateOf?_eq_some_iff.1 hu
  exact h u hfiling hslot

end Message

namespace Store

variable {chain : ChainHash} {s : Store} {m : Message}

/-- `file` touches no channel but that of `channelId?`. -/
theorem find?_channels_file_of_ne {f : Filing} {id : ShortChannelId} (h : f.channelId? ≠ some id) :
    (s.file f).channels.find? id = s.channels.find? id := by
  cases f with
  | channel a =>
    have hid : a.contents.shortChannelId ≠ id := fun heq => h (congrArg some heq)
    cases hfind : s.channels.find? a.contents.shortChannelId with
    | some r => rw [file_channel_of_some hfind]
    | none => rw [file_channel_of_none hfind, Table.find?_insert, if_neg hid]
  | update u =>
    have hid : u.contents.shortChannelId ≠ id := fun heq => h (congrArg some heq)
    cases hfind : s.channels.find? u.contents.shortChannelId with
    | none => rw [file_update_of_none hfind]
    | some r =>
      by_cases hnewer : ∀ current ∈ r.newest u.contents.direction,
          current.contents.timestamp < u.contents.timestamp
      · rw [file_update_of_newer hfind hnewer, Table.find?_insert, if_neg hid]
      · rw [file_update_of_not_newer hfind hnewer]
  | node n =>
    by_cases hnewer : ∀ current ∈ s.nodes.find? n.contents.nodeId,
        current.contents.timestamp < n.contents.timestamp
    · rw [file_node_of_newer hnewer]
    · rw [file_node_of_not_newer hnewer]

/-- `file` touches no node but that of `nodeId?`. -/
theorem find?_nodes_file_of_ne {f : Filing} {id : Point} (h : f.nodeId? ≠ some id) :
    (s.file f).nodes.find? id = s.nodes.find? id := by
  cases f with
  | channel a =>
    cases hfind : s.channels.find? a.contents.shortChannelId with
    | some r => rw [file_channel_of_some hfind]
    | none => rw [file_channel_of_none hfind]
  | update u =>
    cases hfind : s.channels.find? u.contents.shortChannelId with
    | none => rw [file_update_of_none hfind]
    | some r =>
      by_cases hnewer : ∀ current ∈ r.newest u.contents.direction,
          current.contents.timestamp < u.contents.timestamp
      · rw [file_update_of_newer hfind hnewer]
      · rw [file_update_of_not_newer hfind hnewer]
  | node n =>
    have hid : n.contents.nodeId ≠ id := fun heq => h (congrArg some heq)
    by_cases hnewer : ∀ current ∈ s.nodes.find? n.contents.nodeId,
        current.contents.timestamp < n.contents.timestamp
    · rw [file_node_of_newer hnewer, Table.find?_insert, if_neg hid]
    · rw [file_node_of_not_newer hnewer]

/-- A channel that is not stored comes by its announcement and in no other way. -/
theorem find?_fileMessage_of_none {id : ShortChannelId} (h : s.channels.find? id = none) :
    (s.fileMessage chain m).channels.find? id =
      (m.announcementOf? chain id).map fun a => { announcement := a } := by
  cases hannouncement : m.announcementOf? chain id with
  | some a =>
    obtain ⟨hfiling, rfl⟩ := Message.announcementOf?_eq_some_iff.1 hannouncement
    rw [fileMessage_of_some hfiling, file_channel_of_none h, Table.find?_insert, if_pos rfl]
    rfl
  | none =>
    -- The message announces something else, if anything.
    cases hfiling : m.filing? chain with
    | none =>
      rw [fileMessage_of_none hfiling, h]
      rfl
    | some f =>
      rw [fileMessage_of_some hfiling]
      by_cases hid : f.channelId? = some id
      · cases f with
        | channel a =>
          -- Then the message would announce the channel.
          have ha := Message.announcementOf?_eq_some_iff.2 ⟨hfiling, Option.some.inj hid⟩
          rw [hannouncement] at ha
          cases ha
        | update u =>
          obtain rfl : u.contents.shortChannelId = id := Option.some.inj hid
          rw [file_update_of_none h, h]
          rfl
        | node n => cases hid
      · rw [find?_channels_file_of_ne hid, h]
        rfl

/-- A channel that is stored keeps its announcement, and of each end what `keepNewest` keeps. -/
theorem find?_fileMessage_of_some (chain : ChainHash) (m : Message) {id : ShortChannelId}
    {r : ChannelRecord} (h : s.channels.find? id = some r) :
    ∃ r', (s.fileMessage chain m).channels.find? id = some r' ∧ r'.announcement = r.announcement ∧
      ∀ d, r'.newest d =
        keepNewest (·.contents.timestamp) (r.newest d) (m.updateOf? chain id d) := by
  by_cases hupdate : ∃ u, m.filing? chain = some (.update u) ∧ u.contents.shortChannelId = id
  · obtain ⟨u, hfiling, rfl⟩ := hupdate
    have hother : ∀ d, u.contents.direction ≠ d →
        m.updateOf? chain u.contents.shortChannelId d = none := fun d hd =>
      Message.updateOf?_eq_none fun u' hu' => by
        rw [hfiling, Option.some.injEq, Filing.update.injEq] at hu'
        rw [← hu']
        exact fun hslot => hd hslot.2
    have hown : m.updateOf? chain u.contents.shortChannelId u.contents.direction = some u :=
      Message.updateOf?_eq_some_iff.2 ⟨hfiling, rfl, rfl⟩
    rw [fileMessage_of_some hfiling]
    -- The update is taken if it is newer than the one from its own end, and the other end is not
    -- touched.
    by_cases hnewer : ∀ current ∈ r.newest u.contents.direction,
        current.contents.timestamp < u.contents.timestamp
    · refine ⟨r.withUpdate u, ?_, r.announcement_withUpdate u, fun d => ?_⟩
      · rw [file_update_of_newer h hnewer, Table.find?_insert, if_pos rfl]
      · rw [ChannelRecord.newest_withUpdate]
        by_cases hd : u.contents.direction = d
        · subst hd
          rw [if_pos rfl, hown, keepNewest_of_newer hnewer]
        · rw [if_neg hd, hother d hd, keepNewest]
    · refine ⟨r, ?_, rfl, fun d => ?_⟩
      · rw [file_update_of_not_newer h hnewer, h]
      · by_cases hd : u.contents.direction = d
        · subst hd
          rw [hown, keepNewest_of_not_newer hnewer]
        · rw [hother d hd, keepNewest]
  · -- Nothing else touches a channel that is stored.
    have hnone : ∀ d, m.updateOf? chain id d = none := fun d =>
      Message.updateOf?_eq_none fun u hu hslot => hupdate ⟨u, hu, hslot.1⟩
    refine ⟨r, ?_, rfl, fun d => by rw [hnone d, keepNewest]⟩
    cases hfiling : m.filing? chain with
    | none => rw [fileMessage_of_none hfiling, h]
    | some f =>
      rw [fileMessage_of_some hfiling]
      by_cases hid : f.channelId? = some id
      · cases f with
        | channel a =>
          obtain rfl : a.contents.shortChannelId = id := Option.some.inj hid
          rw [file_channel_of_some h, h]
        | update u => exact absurd ⟨u, hfiling, Option.some.inj hid⟩ hupdate
        | node n => cases hid
      · rw [find?_channels_file_of_ne hid, h]

/-- Of each node the announcement is stored that `keepNewest` keeps. -/
theorem find?_nodes_fileMessage (id : Point) :
    (s.fileMessage chain m).nodes.find? id =
      keepNewest (·.contents.timestamp) (s.nodes.find? id) (m.nodeAnnouncementOf? id) := by
  cases hnode : m.nodeAnnouncementOf? id with
  | some n =>
    obtain ⟨hfiling, rfl⟩ : m.filing? chain = some (.node n) ∧ n.contents.nodeId = id :=
      Message.nodeAnnouncementOf?_eq_some_iff.1 hnode
    rw [fileMessage_of_some hfiling]
    by_cases hnewer : ∀ current ∈ s.nodes.find? n.contents.nodeId,
        current.contents.timestamp < n.contents.timestamp
    · rw [file_node_of_newer hnewer, Table.find?_insert, if_pos rfl,
        keepNewest_of_newer hnewer]
    · rw [file_node_of_not_newer hnewer,
        keepNewest_of_not_newer hnewer]
  | none =>
    rw [keepNewest]
    cases hfiling : m.filing? chain with
    | none => rw [fileMessage_of_none hfiling]
    | some f =>
      rw [fileMessage_of_some hfiling]
      refine find?_nodes_file_of_ne fun hid => ?_
      cases f with
      | node n =>
        -- Then the message would announce the node.
        have hn := Message.nodeAnnouncementOf?_eq_some_iff.2 ⟨hfiling, Option.some.inj hid⟩
        rw [hnode] at hn
        cases hn
      | _ => cases hid

/-- What a message has to be for the store to learn something from it: the announcement of a channel
    that is not stored, or an update or the announcement of a node that is newer than what is
    stored. -/
inductive Learns (chain : ChainHash) (s : Store) (m : Message) : Prop where
  | channel {id : ShortChannelId} {a : Recorded ChannelAnnouncement}
      (announces : m.announcementOf? chain id = some a) (unknown : s.channels.find? id = none)
  | update {id : ShortChannelId} {d : Direction} {r : ChannelRecord} {u : Recorded ChannelUpdate}
      (updates : m.updateOf? chain id d = some u) (known : s.channels.find? id = some r)
      (newer : ∀ current ∈ r.newest d, current.contents.timestamp < u.contents.timestamp)
  | node {id : Point} {n : Recorded NodeAnnouncement}
      (announces : m.nodeAnnouncementOf? id = some n)
      (newer : ∀ current ∈ s.nodes.find? id, current.contents.timestamp < n.contents.timestamp)

/-- Whether `file` changes the store for a filing. -/
def Accepts (s : Store) : Filing → Prop
  | .channel a => s.channels.find? a.contents.shortChannelId = none
  | .update u => ∃ r, s.channels.find? u.contents.shortChannelId = some r ∧
      ∀ current ∈ r.newest u.contents.direction, current.contents.timestamp < u.contents.timestamp
  | .node n => ∀ current ∈ s.nodes.find? n.contents.nodeId,
      current.contents.timestamp < n.contents.timestamp

/-- `Learns` in terms of filings: one that the store accepts is filed about the message. -/
theorem learns_iff : s.Learns chain m ↔ ∃ f, m.filing? chain = some f ∧ s.Accepts f := by
  constructor
  · intro h
    cases h with
    | channel announces unknown =>
      obtain ⟨hfiling, rfl⟩ := Message.announcementOf?_eq_some_iff.1 announces
      exact ⟨_, hfiling, unknown⟩
    | update updates known newer =>
      obtain ⟨hfiling, rfl, rfl⟩ := Message.updateOf?_eq_some_iff.1 updates
      exact ⟨_, hfiling, _, known, newer⟩
    | node announces newer =>
      obtain ⟨hfiling, rfl⟩ := Message.nodeAnnouncementOf?_eq_some_iff.1 announces
      exact ⟨_, hfiling, newer⟩
  · rintro ⟨f, hfiling, haccepts⟩
    cases f with
    | channel a =>
      exact .channel (Message.announcementOf?_eq_some_iff.2 ⟨hfiling, rfl⟩) haccepts
    | update u =>
      obtain ⟨r, hr, hnewer⟩ := haccepts
      exact .update (Message.updateOf?_eq_some_iff.2 ⟨hfiling, rfl, rfl⟩) hr hnewer
    | node n => exact .node (Message.nodeAnnouncementOf?_eq_some_iff.2 ⟨hfiling, rfl⟩) haccepts

/-- `fileMessage` changes nothing without `Learns`. -/
theorem fileMessage_eq_self (h : ¬s.Learns chain m) : s.fileMessage chain m = s := by
  cases hfiling : m.filing? chain with
  | none => exact fileMessage_of_none hfiling s
  | some f =>
    have hrefused : ¬s.Accepts f := fun haccepts => h (learns_iff.2 ⟨f, hfiling, haccepts⟩)
    rw [fileMessage_of_some hfiling]
    cases f with
    | channel a =>
      obtain ⟨r, hr⟩ := Option.ne_none_iff_exists'.1 hrefused
      exact file_channel_of_some hr
    | update u =>
      cases hfind : s.channels.find? u.contents.shortChannelId with
      | none => exact file_update_of_none hfind
      | some r =>
        exact file_update_of_not_newer hfind fun hnewer => hrefused ⟨r, hfind, hnewer⟩
    | node n => exact file_node_of_not_newer hrefused

/-! ## Many messages -/

/-- The messages after the first announcement of a channel. -/
def sinceAnnounced (chain : ChainHash) (id : ShortChannelId) (ms : List Message) : List Message :=
  (ms.dropWhile fun m => (m.announcementOf? chain id).isNone).tail

/-- A store as a function of the messages that it has filed. -/
structure Recalls (chain : ChainHash) (s : Store) (ms : List Message) : Prop where
  /-- A channel is stored if it was announced, and with its first announcement. -/
  announcement_eq : ∀ id, (s.channels.find? id).map ChannelRecord.announcement =
    ms.findSome? (·.announcementOf? chain id)
  /-- It has of each end the first of the newest updates that came after that. -/
  newest_eq : ∀ id r d, s.channels.find? id = some r → r.newest d =
    ((sinceAnnounced chain id ms).filterMap (·.updateOf? chain id d)).argmax
      (·.contents.timestamp.toNat)
  /-- A node is stored with the first of its newest announcements. -/
  node_eq : ∀ id, s.nodes.find? id =
    (ms.filterMap (·.nodeAnnouncementOf? id)).argmax (·.contents.timestamp.toNat)

/-- `sinceAnnounced` has nothing up to the first announcement, which is what the last message may
    be. -/
theorem sinceAnnounced_concat_of_none {id : ShortChannelId} {ms : List Message}
    (h : ms.findSome? (·.announcementOf? chain id) = none) :
    sinceAnnounced chain id (ms ++ [m]) = [] := by
  have hnil : ms.dropWhile (fun m => (m.announcementOf? chain id).isNone) = [] := by
    rw [List.dropWhile_eq_nil_iff]
    intro m' hm'
    rw [Option.isNone_iff_eq_none]
    exact List.findSome?_eq_none_iff.1 h m' hm'
  rw [sinceAnnounced, List.dropWhile_append, hnil]
  simp only [List.isEmpty_nil, if_true, List.dropWhile_cons]
  split <;> rfl

/-- `sinceAnnounced` has every message that comes once the channel is announced. -/
theorem sinceAnnounced_concat_of_some {id : ShortChannelId} {a : Recorded ChannelAnnouncement}
    {ms : List Message} (h : ms.findSome? (·.announcementOf? chain id) = some a) :
    sinceAnnounced chain id (ms ++ [m]) = sinceAnnounced chain id ms ++ [m] := by
  obtain ⟨m', hm', ha⟩ := List.exists_of_findSome?_eq_some h
  have hne : ms.dropWhile (fun m => (m.announcementOf? chain id).isNone) ≠ [] := by
    intro hnil
    have hnone := List.dropWhile_eq_nil_iff.1 hnil m' hm'
    rw [ha] at hnone
    cases hnone
  rw [sinceAnnounced, List.dropWhile_append, if_neg (by simpa using hne),
    List.tail_append_of_ne_nil hne, sinceAnnounced]

namespace Recalls

variable {ms : List Message}

/-- The empty store recalls no messages. -/
theorem empty (chain : ChainHash) : Store.empty.Recalls chain [] where
  announcement_eq _ := rfl
  newest_eq id r d h := by cases h
  node_eq _ := rfl

/-- One more message is recalled as `Recalls` says. -/
theorem fileMessage (h : s.Recalls chain ms) (m : Message) :
    (s.fileMessage chain m).Recalls chain (ms ++ [m]) where
  announcement_eq id := by
    rw [List.findSome?_append, ← h.announcement_eq id]
    cases hfind : s.channels.find? id with
    | none =>
      rw [find?_fileMessage_of_none hfind]
      cases hm : m.announcementOf? chain id with
      | none => simp [hm]
      | some a => simp [hm]
    | some r =>
      -- The first announcement stays.
      obtain ⟨r', hr', hannouncement, -⟩ := find?_fileMessage_of_some chain m hfind
      rw [hr', Option.map_some, Option.map_some, hannouncement, Option.some_or]
  newest_eq id r' d hr' := by
    have hannouncement := h.announcement_eq id
    cases hfind : s.channels.find? id with
    | none =>
      -- The channel is new, so that nothing has come after its announcement.
      rw [hfind, Option.map_none] at hannouncement
      rw [find?_fileMessage_of_none hfind, Option.map_eq_some_iff] at hr'
      obtain ⟨a, -, rfl⟩ := hr'
      rw [sinceAnnounced_concat_of_none hannouncement.symm, ChannelRecord.newest_mk]
      rfl
    | some r =>
      rw [hfind, Option.map_some] at hannouncement
      obtain ⟨r'', hr'', -, hnewest⟩ := find?_fileMessage_of_some chain m hfind
      obtain rfl : r'' = r' := Option.some.inj (hr''.symm.trans hr')
      -- `keepNewest` goes on from the newest of the messages before.
      rw [hnewest d, h.newest_eq id r d hfind, sinceAnnounced_concat_of_some hannouncement.symm,
        argmax_filterMap_concat]
  node_eq id := by rw [find?_nodes_fileMessage, h.node_eq id, argmax_filterMap_concat]

end Recalls

/-- A store recalls whatever it has filed by `fileAll` since it was empty. -/
theorem recalls_fileAll (chain : ChainHash) (ms : List Message) :
    (Store.empty.fileAll chain ms).Recalls chain ms := by
  -- The last message comes on top of what the others left.
  induction ms using List.reverseRecOn with
  | nil => exact .empty chain
  | append_singleton ms m ih =>
    rw [fileAll_append]
    exact ih.fileMessage m

end Store

end ChannelGossip
