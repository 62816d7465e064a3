import ChannelGossip.Proofs.Store.Filing
import ChannelGossip.Proofs.Store.Ids

/-! # The places of a store

A store has a place for the announcement of each channel, for the newest update from either end of
each channel, and for the announcement of each node.  A filing belongs in one place and changes no
other.  Main statements:

* `Filing.place`, `Store.filing?`   where a filing belongs, and what is in a place
* `Store.filing?_file`   what is in a place after a filing
* `Store.IsBuilt`   stores that are built by filing messages
* `Store.IsBuilt.isRead`   every filing in such a store is in its own place -/

namespace ChannelGossip

/-- A place of a store. -/
inductive Store.Place where
  | announcement (id : ShortChannelId)
  | update (id : ShortChannelId) (d : Direction)
  | node (id : Point)
deriving Repr, DecidableEq

/-- The channel that a place is about, if it is about one. -/
def Store.Place.channelId? : Store.Place → Option ShortChannelId
  | announcement id => some id
  | update id _ => some id
  | node _ => none

namespace Filing

/-- The place where a filing belongs. -/
def place : Filing → Store.Place
  | channel a => .announcement a.contents.shortChannelId
  | update u => .update u.contents.shortChannelId u.contents.direction
  | node n => .node n.contents.nodeId

/-- Whether a filing is what `record` gives for its message. -/
def IsRead : Filing → Prop
  | channel a => a.message.record ChannelAnnouncement = .ok a
  | update u => u.message.record ChannelUpdate = .ok u
  | node n => n.message.record NodeAnnouncement = .ok n

/-- What `filing?` gives is what `record` gives for the message. -/
theorem isRead_of_filing? {chain : ChainHash} {m : Message} {f : Filing}
    (h : m.filing? chain = some f) : f.IsRead := by
  have hmessage : f.message = m := Message.message_of_filing? h
  rw [← hmessage] at h
  cases f with
  | channel a => exact (Message.filing?_eq_channel_iff.1 h).1
  | update u => exact (Message.filing?_eq_update_iff.1 h).1
  | node n => exact (Message.filing?_eq_node_iff.1 h).1

/-- The kind of the message tells the kind of a filing with `IsRead`. -/
theorem IsRead.kind?_eq {f : Filing} (h : f.IsRead) : f.message.kind? = some f.kind := by
  cases f with
  | channel a => exact Message.kind?_of_contents (Message.record_eq_ok_iff.1 h).1
  | update u => exact Message.kind?_of_contents (Message.record_eq_ok_iff.1 h).1
  | node n => exact Message.kind?_of_contents (Message.record_eq_ok_iff.1 h).1

/-- `record` gives one thing for one message. -/
private theorem eq_of_record {α : Type} [Contents α] {a b : Recorded α}
    (ha : a.message.record α = .ok a) (hb : b.message.record α = .ok b)
    (h : a.message = b.message) : a = b := by
  rw [h, hb] at ha
  exact (Except.ok.inj ha).symm

/-- Filings with `IsRead` are the same if their messages are. -/
theorem IsRead.eq_of_message_eq {f g : Filing} (hf : f.IsRead) (hg : g.IsRead)
    (h : f.message = g.message) : f = g := by
  have hkind : f.kind = g.kind :=
    Option.some.inj (hf.kind?_eq.symm.trans ((congrArg Message.kind? h).trans hg.kind?_eq))
  -- Two filings of one message are of the same kind, which leaves three cases of nine.
  cases f with
  | channel a =>
    cases g with
    | channel b => rw [eq_of_record hf hg h]
    | update => cases hkind
    | node => cases hkind
  | update u =>
    cases g with
    | channel => cases hkind
    | update v => rw [eq_of_record hf hg h]
    | node => cases hkind
  | node n =>
    cases g with
    | channel => cases hkind
    | update => cases hkind
    | node n' => rw [eq_of_record hf hg h]

end Filing

namespace Store

/-- What is filed in a place. -/
def filing? (s : Store) : Place → Option Filing
  | .announcement id => (s.channels.find? id).map fun r => .channel r.announcement
  | .update id d => (s.channels.find? id).bind fun r => (r.newest d).map .update
  | .node id => (s.nodes.find? id).map .node

variable {s : Store} {f g : Filing} {place : Place}

theorem filing?_announcement_iff {id : ShortChannelId} :
    s.filing? (.announcement id) = some f ↔
      ∃ r, s.channels.find? id = some r ∧ .channel r.announcement = f :=
  Option.map_eq_some_iff

theorem filing?_update_iff {id : ShortChannelId} {d : Direction} :
    s.filing? (.update id d) = some f ↔
      ∃ r u, s.channels.find? id = some r ∧ r.newest d = some u ∧ .update u = f := by
  simp only [filing?, Option.bind_eq_some_iff, Option.map_eq_some_iff]
  constructor
  · rintro ⟨r, hr, u, hu, rfl⟩
    exact ⟨r, u, hr, hu, rfl⟩
  · rintro ⟨r, u, hr, hu, rfl⟩
    exact ⟨r, hr, u, hu, rfl⟩

theorem filing?_node_iff {id : Point} :
    s.filing? (.node id) = some f ↔ ∃ n, s.nodes.find? id = some n ∧ .node n = f :=
  Option.map_eq_some_iff

/-! ## One filing -/

/-- `filing?_file` for a channel. -/
private theorem filing?_file_channel {a : Recorded ChannelAnnouncement}
    (h : (s.file (.channel a)).filing? place = some g) :
    place = .announcement a.contents.shortChannelId ∧ g = .channel a ∨
      s.filing? place = some g := by
  cases hfind : s.channels.find? a.contents.shortChannelId with
  | some r =>
    -- A known channel is not touched.
    rw [file_channel_of_some hfind] at h
    exact .inr h
  | none =>
    rw [file_channel_of_none hfind] at h
    cases place with
    | announcement id =>
      obtain ⟨r, hr, rfl⟩ := filing?_announcement_iff.1 h
      rcases Table.find?_insert_eq_some_iff.1 hr with ⟨rfl, rfl⟩ | ⟨-, hr⟩
      · exact .inl ⟨rfl, rfl⟩
      · exact .inr (filing?_announcement_iff.2 ⟨r, hr, rfl⟩)
    | update id d =>
      obtain ⟨r, u, hr, hu, rfl⟩ := filing?_update_iff.1 h
      rcases Table.find?_insert_eq_some_iff.1 hr with ⟨rfl, rfl⟩ | ⟨-, hr⟩
      · -- A new channel has no updates.
        rw [ChannelRecord.newest_mk] at hu
        cases hu
      · exact .inr (filing?_update_iff.2 ⟨r, u, hr, hu, rfl⟩)
    | node id => exact .inr h

/-- `filing?_file` for an update. -/
private theorem filing?_file_update {u : Recorded ChannelUpdate}
    (h : (s.file (.update u)).filing? place = some g) :
    place = .update u.contents.shortChannelId u.contents.direction ∧ g = .update u ∨
      s.filing? place = some g := by
  cases hfind : s.channels.find? u.contents.shortChannelId with
  | none =>
    rw [file_update_of_none hfind] at h
    exact .inr h
  | some r =>
    by_cases hnewer : ∀ current ∈ r.newest u.contents.direction,
        current.contents.timestamp < u.contents.timestamp
    · rw [file_update_of_newer hfind hnewer] at h
      cases place with
      | announcement id =>
        obtain ⟨r', hr', rfl⟩ := filing?_announcement_iff.1 h
        -- The record is a new one, but it has the announcement of the one before.
        rcases Table.find?_insert_eq_some_iff.1 hr' with ⟨rfl, rfl⟩ | ⟨-, hr'⟩
        · rw [ChannelRecord.announcement_withUpdate]
          exact .inr (filing?_announcement_iff.2 ⟨r, hfind, rfl⟩)
        · exact .inr (filing?_announcement_iff.2 ⟨r', hr', rfl⟩)
      | update id d =>
        obtain ⟨r', u', hr', hu', rfl⟩ := filing?_update_iff.1 h
        rcases Table.find?_insert_eq_some_iff.1 hr' with ⟨rfl, rfl⟩ | ⟨-, hr'⟩
        · -- Only the direction of the update has changed.
          rw [ChannelRecord.newest_withUpdate] at hu'
          by_cases hd : u.contents.direction = d
          · rw [if_pos hd] at hu'
            obtain rfl := Option.some.inj hu'
            exact .inl ⟨hd ▸ rfl, rfl⟩
          · rw [if_neg hd] at hu'
            exact .inr (filing?_update_iff.2 ⟨r, u', hfind, hu', rfl⟩)
        · exact .inr (filing?_update_iff.2 ⟨r', u', hr', hu', rfl⟩)
      | node id => exact .inr h
    · rw [file_update_of_not_newer hfind hnewer] at h
      exact .inr h

/-- `filing?_file` for a node. -/
private theorem filing?_file_node {n : Recorded NodeAnnouncement}
    (h : (s.file (.node n)).filing? place = some g) :
    place = .node n.contents.nodeId ∧ g = .node n ∨ s.filing? place = some g := by
  by_cases hnewer : ∀ current ∈ s.nodes.find? n.contents.nodeId,
      current.contents.timestamp < n.contents.timestamp
  · rw [file_node_of_newer hnewer] at h
    cases place with
    | announcement id => exact .inr h
    | update id d => exact .inr h
    | node id =>
      obtain ⟨n', hn', rfl⟩ := filing?_node_iff.1 h
      rcases Table.find?_insert_eq_some_iff.1 hn' with ⟨rfl, rfl⟩ | ⟨-, hn'⟩
      · exact .inl ⟨rfl, rfl⟩
      · exact .inr (filing?_node_iff.2 ⟨n', hn', rfl⟩)
  · rw [file_node_of_not_newer hnewer] at h
    exact .inr h

/-- After `file`, what is in a place is the filing, in its own place, or was there before. -/
theorem filing?_file (h : (s.file f).filing? place = some g) :
    place = f.place ∧ g = f ∨ s.filing? place = some g := by
  cases f with
  | channel a => exact filing?_file_channel h
  | update u => exact filing?_file_update h
  | node n => exact filing?_file_node h

/-! ## Many filings -/

/-- A store that is built from the empty one by filing messages, whatever chain they are about. -/
inductive IsBuilt : Store → Prop where
  | empty : IsBuilt .empty
  | file {s : Store} {f : Filing} (built : IsBuilt s) (read : f.IsRead) : IsBuilt (s.file f)

/-- What is in a place of a store with `IsBuilt` has the contents of its message and belongs
    there. -/
theorem IsBuilt.isRead (h : s.IsBuilt) (hf : s.filing? place = some f) :
    f.IsRead ∧ f.place = place := by
  induction h generalizing place f with
  | empty =>
    cases place with
    | announcement id => cases hf
    | update id d => cases hf
    | node id => cases hf
  | file built read ih =>
    rcases filing?_file hf with ⟨rfl, rfl⟩ | hf
    · exact ⟨read, rfl⟩
    · exact ih hf

/-- `fileAll` keeps `IsBuilt`. -/
theorem IsBuilt.fileAll (h : s.IsBuilt) (chain : ChainHash) (ms : List Message) :
    (s.fileAll chain ms).IsBuilt := by
  induction ms generalizing s with
  | nil => exact h
  | cons m ms ih =>
    rw [fileAll_cons]
    refine ih ?_
    cases hfiling : m.filing? chain with
    | none =>
      rw [fileMessage_of_none hfiling]
      exact h
    | some f =>
      rw [fileMessage_of_some hfiling]
      exact h.file (Filing.isRead_of_filing? hfiling)

end Store

end ChannelGossip
