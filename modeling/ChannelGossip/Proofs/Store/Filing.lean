import ChannelGossip.Proofs.Contents
import ChannelGossip.Proofs.Except
import ChannelGossip.Store

/-! # What a store files

Only three kinds of messages are filed, and of those only messages about the node's own chain and
nodes whose addresses can be read.  A store takes its filings one after the other.  Main
statements:

* `Message.filing?`   what is filed about a message
* `Store.file`, `Store.fileAll`   how a store takes filings and messages
* `Store.file_channel_of_none`, `Store.file_update_of_newer`, `Store.file_node_of_newer`   the
  filings that are accepted, next to those that change nothing -/

namespace ChannelGossip

/-! ## Channels -/

namespace ChannelRecord

/-- `withUpdate` keeps the announcement. -/
@[simp] theorem announcement_withUpdate (r : ChannelRecord) (u : Recorded ChannelUpdate) :
    (r.withUpdate u).announcement = r.announcement := by
  unfold withUpdate
  split
  · rfl
  · rfl

/-- After `withUpdate` the update is the newest one from its own end, and the other end's is the
    same. -/
theorem newest_withUpdate (r : ChannelRecord) (u : Recorded ChannelUpdate) (d : Direction) :
    (r.withUpdate u).newest d = if u.contents.direction = d then some u else r.newest d := by
  unfold withUpdate
  -- The update and the look-up have a direction each: four cases, of which two agree.
  cases hu : u.contents.direction with
  | fromFirst =>
    cases d with
    | fromFirst => rfl
    | fromSecond => rfl
  | fromSecond =>
    cases d with
    | fromFirst => rfl
    | fromSecond => rfl

/-- `updates` are the newest ones from the two ends. -/
theorem mem_updates_iff {r : ChannelRecord} {u : Recorded ChannelUpdate} :
    u ∈ r.updates ↔ ∃ d, r.newest d = some u := by
  rw [updates, List.mem_append, Option.mem_toList, Option.mem_toList]
  constructor
  · intro h
    rcases h with h | h
    · exact ⟨.fromFirst, h⟩
    · exact ⟨.fromSecond, h⟩
  · intro h
    obtain ⟨d, hd⟩ := h
    cases d with
    | fromFirst => exact .inl hd
    | fromSecond => exact .inr hd

/-- There are no `updates` if there is none from either end. -/
theorem updates_eq_nil_iff {r : ChannelRecord} :
    r.updates = [] ↔ ∀ d, r.newest d = none := by
  constructor
  · intro h d
    rw [Option.eq_none_iff_forall_ne_some]
    intro u hu
    have hmem : u ∈ r.updates := mem_updates_iff.2 ⟨d, hu⟩
    rw [h] at hmem
    cases hmem
  · intro h
    rw [List.eq_nil_iff_forall_not_mem]
    intro u hu
    obtain ⟨d, hd⟩ := mem_updates_iff.1 hu
    rw [h d] at hd
    cases hd

/-- A new channel has no `newest` updates. -/
@[simp] theorem newest_mk (a : Recorded ChannelAnnouncement) (d : Direction) :
    newest { announcement := a } d = none := by
  cases d with
  | fromFirst => rfl
  | fromSecond => rfl

end ChannelRecord

/-! ## Filings -/

/-- What is filed about a message. -/
inductive Filing where
  | channel (a : Recorded ChannelAnnouncement)
  | update (u : Recorded ChannelUpdate)
  | node (n : Recorded NodeAnnouncement)
deriving Repr, DecidableEq

/-- The kind of messages that something is filed about in this way. -/
def Filing.kind : Filing → MessageKind
  | channel _ => .channelAnnouncement
  | update _ => .channelUpdate
  | node _ => .nodeAnnouncement

/-- The message that a filing is about. -/
def Filing.message : Filing → Message
  | channel a => a.message
  | update u => u.message
  | node n => n.message

/-- The time of an update or of a node; a channel has none. -/
def Filing.timestamp? : Filing → Option UInt32
  | channel _ => none
  | update u => some u.contents.timestamp
  | node n => some n.contents.timestamp

/-- The kinds of messages that gossip consists of. -/
def MessageKind.gossip : List MessageKind :=
  [channelAnnouncement, channelUpdate, nodeAnnouncement]

namespace Message

/-- Whether a message is gossip. -/
def IsGossip (m : Message) : Prop := ∃ kind ∈ MessageKind.gossip, m.kind? = some kind

instance (m : Message) : Decidable m.IsGossip := inferInstanceAs (Decidable (∃ _ ∈ _, _))

/-- The kind of a message tells whether it is gossip. -/
theorem IsGossip.kind_mem {m : Message} {kind : MessageKind} (h : m.IsGossip)
    (hkind : m.kind? = some kind) : kind ∈ MessageKind.gossip := by
  obtain ⟨kind', hmem, hkind'⟩ := h
  rwa [← Option.some.inj (hkind'.symm.trans hkind)]

/-- What a node on `chain` files about a message. -/
def filing? (chain : ChainHash) (m : Message) : Option Filing :=
  match m.kind? with
  | some .channelAnnouncement =>
    match m.record ChannelAnnouncement with
    | .ok a => if a.contents.chainHash = chain then some (.channel a) else none
    | .error _ => none
  | some .channelUpdate =>
    match m.record ChannelUpdate with
    | .ok u => if u.contents.chainHash = chain then some (.update u) else none
    | .error _ => none
  | some .nodeAnnouncement =>
    match m.record NodeAnnouncement with
    | .ok n =>
      match n.contents.netAddresses with
      | .ok _ => some (.node n)
      | .error _ => none
    | .error _ => none
  | _ => none

/-- `record` puts the contents next to the message. -/
theorem record_eq_ok_iff {α : Type} [Contents α] {m : Message} {a : Recorded α} :
    m.record α = .ok a ↔ m.contents α = .ok a.contents ∧ a.message = m := by
  rw [record, Except.map_eq_ok_iff]
  constructor
  · intro h
    obtain ⟨c, hc, rfl⟩ := h
    exact ⟨hc, rfl⟩
  · intro h
    obtain ⟨hc, rfl⟩ := h
    exact ⟨a.contents, hc, rfl⟩

variable {chain : ChainHash} {m : Message}

/-- `filing?` is a channel or an update on the own chain, or a node whose addresses can be read. -/
private theorem filing?_cases {f : Filing} (h : m.filing? chain = some f) :
    (∃ a, f = .channel a ∧ m.record ChannelAnnouncement = .ok a ∧ a.contents.chainHash = chain) ∨
    (∃ u, f = .update u ∧ m.record ChannelUpdate = .ok u ∧ u.contents.chainHash = chain) ∨
    ∃ n addresses, f = .node n ∧ m.record NodeAnnouncement = .ok n ∧
      n.contents.netAddresses = .ok addresses := by
  -- One case for each kind of gossip, and in it one for each check that can fail.
  unfold filing? at h
  split at h
  · split at h
    · rename_i a ha
      by_cases hchain : a.contents.chainHash = chain
      · rw [if_pos hchain] at h
        exact .inl ⟨a, (Option.some.inj h).symm, ha, hchain⟩
      · rw [if_neg hchain] at h
        cases h
    · cases h
  · split at h
    · rename_i u hu
      by_cases hchain : u.contents.chainHash = chain
      · rw [if_pos hchain] at h
        exact .inr (.inl ⟨u, (Option.some.inj h).symm, hu, hchain⟩)
      · rw [if_neg hchain] at h
        cases h
    · cases h
  · split at h
    · rename_i n hn
      split at h
      · rename_i addresses haddresses
        -- A node has no chain that could be another one, but addresses that have to be read.
        exact .inr (.inr ⟨n, addresses, (Option.some.inj h).symm, hn, haddresses⟩)
      · cases h
    · cases h
  · cases h

/-- `filing?` takes channels on the own chain. -/
theorem filing?_eq_channel_iff {a : Recorded ChannelAnnouncement} :
    m.filing? chain = some (.channel a) ↔
      m.record ChannelAnnouncement = .ok a ∧ a.contents.chainHash = chain := by
  constructor
  · intro h
    obtain ⟨a', hf, ha⟩ | ⟨u, hf, -⟩ | ⟨n, addresses, hf, -⟩ := filing?_cases h
    · cases hf
      exact ha
    · cases hf
    · cases hf
  · intro h
    obtain ⟨hrecord, hchain⟩ := h
    have hkind : m.kind? = some .channelAnnouncement :=
      kind?_of_contents (record_eq_ok_iff.1 hrecord).1
    simp only [filing?, hkind, hrecord, if_pos hchain]

/-- `filing?` takes updates on the own chain. -/
theorem filing?_eq_update_iff {u : Recorded ChannelUpdate} :
    m.filing? chain = some (.update u) ↔
      m.record ChannelUpdate = .ok u ∧ u.contents.chainHash = chain := by
  constructor
  · intro h
    obtain ⟨a, hf, -⟩ | ⟨u', hf, hu⟩ | ⟨n, addresses, hf, -⟩ := filing?_cases h
    · cases hf
    · cases hf
      exact hu
    · cases hf
  · intro h
    obtain ⟨hrecord, hchain⟩ := h
    have hkind : m.kind? = some .channelUpdate :=
      kind?_of_contents (record_eq_ok_iff.1 hrecord).1
    simp only [filing?, hkind, hrecord, if_pos hchain]

/-- `filing?` takes nodes whose addresses can be read, whatever the chain. -/
theorem filing?_eq_node_iff {n : Recorded NodeAnnouncement} :
    m.filing? chain = some (.node n) ↔
      m.record NodeAnnouncement = .ok n ∧ ∃ addresses, n.contents.netAddresses = .ok addresses := by
  constructor
  · intro h
    obtain ⟨a, hf, -⟩ | ⟨u, hf, -⟩ | ⟨n', addresses, hf, hn, haddresses⟩ := filing?_cases h
    · cases hf
    · cases hf
    · cases hf
      exact ⟨hn, addresses, haddresses⟩
  · intro h
    obtain ⟨hrecord, addresses, haddresses⟩ := h
    -- Back again, the kind of the message selects the branch, and nothing in it fails.
    have hkind : m.kind? = some .nodeAnnouncement :=
      kind?_of_contents (record_eq_ok_iff.1 hrecord).1
    simp only [filing?, hkind, hrecord, haddresses]

/-- What `filing?` gives has the message next to it. -/
theorem message_of_filing? {f : Filing} (h : m.filing? chain = some f) : f.message = m := by
  cases f with
  | channel a => exact (record_eq_ok_iff.1 (filing?_eq_channel_iff.1 h).1).2
  | update u => exact (record_eq_ok_iff.1 (filing?_eq_update_iff.1 h).1).2
  | node n => exact (record_eq_ok_iff.1 (filing?_eq_node_iff.1 h).1).2

/-- What `filing?` gives tells the kind of the message. -/
theorem kind?_of_filing? {f : Filing} (h : m.filing? chain = some f) : m.kind? = some f.kind := by
  cases f with
  | channel a => exact kind?_of_contents (record_eq_ok_iff.1 (filing?_eq_channel_iff.1 h).1).1
  | update u => exact kind?_of_contents (record_eq_ok_iff.1 (filing?_eq_update_iff.1 h).1).1
  | node n => exact kind?_of_contents (record_eq_ok_iff.1 (filing?_eq_node_iff.1 h).1).1

end Message

/-! ## Taking filings -/

namespace Store

/-- The store after it has taken a filing. -/
def file (s : Store) : Filing → Store
  | .channel a => (s.insertChannel a).1
  | .update u => (s.insertUpdate u).1
  | .node n => (s.insertNode n).1

/-- The store after a message on the given chain has been filed. -/
def fileMessage (chain : ChainHash) (s : Store) (m : Message) : Store :=
  match m.filing? chain with
  | some f => s.file f
  | none => s

/-- The store after messages have been filed one after the other. -/
def fileAll (chain : ChainHash) (s : Store) (ms : List Message) : Store :=
  ms.foldl (fileMessage chain) s

@[simp] theorem fileAll_nil (chain : ChainHash) (s : Store) : s.fileAll chain [] = s := rfl

@[simp] theorem fileAll_cons (chain : ChainHash) (s : Store) (m : Message) (ms : List Message) :
    s.fileAll chain (m :: ms) = (s.fileMessage chain m).fileAll chain ms := rfl

@[simp] theorem fileAll_append (chain : ChainHash) (s : Store) (ms ms' : List Message) :
    s.fileAll chain (ms ++ ms') = (s.fileAll chain ms).fileAll chain ms' :=
  List.foldl_append

/-- `fileMessage` files what `filing?` gives. -/
theorem fileMessage_of_some {chain : ChainHash} {m : Message} {f : Filing}
    (h : m.filing? chain = some f) (s : Store) : s.fileMessage chain m = s.file f := by
  simp only [fileMessage, h]

/-- `fileMessage` changes nothing if `filing?` gives nothing. -/
theorem fileMessage_of_none {chain : ChainHash} {m : Message} (h : m.filing? chain = none)
    (s : Store) : s.fileMessage chain m = s := by
  simp only [fileMessage, h]

/-! ## Which filings are accepted -/

/-- The check for something stale fails exactly if all that is stored is older. -/
theorem any_le_eq_false_iff {α : Type} {current : Option α} {timestamp : α → UInt32}
    {t : UInt32} :
    (current.any fun c => t ≤ timestamp c) = false ↔ ∀ c ∈ current, timestamp c < t := by
  cases current with
  | none => simp
  | some c => simp

variable {s : Store}

section Channel

variable {a : Recorded ChannelAnnouncement}

/-- `file` takes a new channel, without any updates. -/
theorem file_channel_of_none (h : s.channels.find? a.contents.shortChannelId = none) :
    s.file (.channel a) =
      { s with channels := s.channels.insert a.contents.shortChannelId { announcement := a } } := by
  simp only [file, insertChannel, h]

/-- `file` leaves a known channel its announcement. -/
theorem file_channel_of_some {r : ChannelRecord}
    (h : s.channels.find? a.contents.shortChannelId = some r) : s.file (.channel a) = s := by
  simp only [file, insertChannel, h]

end Channel

section Update

variable {u : Recorded ChannelUpdate}

/-- `file` does not take an update of an unknown channel. -/
theorem file_update_of_none (h : s.channels.find? u.contents.shortChannelId = none) :
    s.file (.update u) = s := by
  simp only [file, insertUpdate, h]

/-- `file` takes an update that is newer than the one stored for its direction. -/
theorem file_update_of_newer {r : ChannelRecord}
    (h : s.channels.find? u.contents.shortChannelId = some r)
    (hnewer : ∀ current ∈ r.newest u.contents.direction,
      current.contents.timestamp < u.contents.timestamp) :
    s.file (.update u) =
      { s with channels := s.channels.insert u.contents.shortChannelId (r.withUpdate u) } := by
  have hstale : ((r.newest u.contents.direction).any fun current =>
      u.contents.timestamp ≤ current.contents.timestamp) = false :=
    any_le_eq_false_iff.2 hnewer
  simp only [file, insertUpdate, h, hstale, Bool.false_eq_true, if_false]

/-- `file` does not take an update that is not newer than the one stored for its direction. -/
theorem file_update_of_not_newer {r : ChannelRecord}
    (h : s.channels.find? u.contents.shortChannelId = some r)
    (hnewer : ¬∀ current ∈ r.newest u.contents.direction,
      current.contents.timestamp < u.contents.timestamp) : s.file (.update u) = s := by
  -- Something is stored for the direction, and it is at least as new.
  have hstale : ((r.newest u.contents.direction).any fun current =>
      u.contents.timestamp ≤ current.contents.timestamp) = true := by
    rw [← Bool.not_eq_false]
    exact mt any_le_eq_false_iff.1 hnewer
  simp only [file, insertUpdate, h, hstale, if_true]

end Update

section Node

variable {n : Recorded NodeAnnouncement}

/-- `file` takes a node that is newer than what is stored of it. -/
theorem file_node_of_newer
    (hnewer : ∀ current ∈ s.nodes.find? n.contents.nodeId,
      current.contents.timestamp < n.contents.timestamp) :
    s.file (.node n) = { s with nodes := s.nodes.insert n.contents.nodeId n } := by
  have hstale : ((s.nodes.find? n.contents.nodeId).any fun current =>
      n.contents.timestamp ≤ current.contents.timestamp) = false :=
    any_le_eq_false_iff.2 hnewer
  simp only [file, insertNode, hstale, Bool.false_eq_true, if_false]

/-- `file` does not take a node that is not newer than what is stored of it. -/
theorem file_node_of_not_newer
    (hnewer : ¬∀ current ∈ s.nodes.find? n.contents.nodeId,
      current.contents.timestamp < n.contents.timestamp) : s.file (.node n) = s := by
  have hstale : ((s.nodes.find? n.contents.nodeId).any fun current =>
      n.contents.timestamp ≤ current.contents.timestamp) = true := by
    rw [← Bool.not_eq_false]
    exact mt any_le_eq_false_iff.1 hnewer
  simp only [file, insertNode, hstale, if_true]

end Node

end Store

end ChannelGossip
