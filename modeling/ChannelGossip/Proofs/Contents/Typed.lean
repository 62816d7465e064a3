import ChannelGossip.Proofs.Message.Obtainable
import ChannelGossip.Proofs.Wire.IdList

/-! # Messages and their contents

Each kind of messages has one structure for its contents.  A message that can be had is read as the
structure of its own kind and as no other, and the two determine each other up to the bytes after
the last field.  Main statements:

* `MessageKind.Typed`   the structure for the contents of each kind
* `Message.WellFormed.toMessage_contents`   contents make the message again, without its remainder
* `MessageKind.contents_correspond`   messages and contents of each kind -/

namespace ChannelGossip

namespace MessageKind

/-- The structure for the contents of a kind of messages. -/
def Typed : MessageKind → Type
  | init => Init
  | ping => Ping
  | pong => Pong
  | channelAnnouncement => ChannelAnnouncement
  | nodeAnnouncement => NodeAnnouncement
  | channelUpdate => ChannelUpdate
  | queryShortChannelIds => QueryShortChannelIds
  | replyShortChannelIds => ReplyShortChannelIds
  | queryChannelRange => QueryChannelRange
  | replyChannelRange => ReplyChannelRange
  | gossipTimestampFilter => GossipTimestampFilter

instance (kind : MessageKind) : Contents kind.Typed :=
  match kind with
  | init => inferInstanceAs (Contents Init)
  | ping => inferInstanceAs (Contents Ping)
  | pong => inferInstanceAs (Contents Pong)
  | channelAnnouncement => inferInstanceAs (Contents ChannelAnnouncement)
  | nodeAnnouncement => inferInstanceAs (Contents NodeAnnouncement)
  | channelUpdate => inferInstanceAs (Contents ChannelUpdate)
  | queryShortChannelIds => inferInstanceAs (Contents QueryShortChannelIds)
  | replyShortChannelIds => inferInstanceAs (Contents ReplyShortChannelIds)
  | queryChannelRange => inferInstanceAs (Contents QueryChannelRange)
  | replyChannelRange => inferInstanceAs (Contents ReplyChannelRange)
  | gossipTimestampFilter => inferInstanceAs (Contents GossipTimestampFilter)

instance (kind : MessageKind) : LawfulContents kind.Typed :=
  match kind with
  | init => inferInstanceAs (LawfulContents Init)
  | ping => inferInstanceAs (LawfulContents Ping)
  | pong => inferInstanceAs (LawfulContents Pong)
  | channelAnnouncement => inferInstanceAs (LawfulContents ChannelAnnouncement)
  | nodeAnnouncement => inferInstanceAs (LawfulContents NodeAnnouncement)
  | channelUpdate => inferInstanceAs (LawfulContents ChannelUpdate)
  | queryShortChannelIds => inferInstanceAs (LawfulContents QueryShortChannelIds)
  | replyShortChannelIds => inferInstanceAs (LawfulContents ReplyShortChannelIds)
  | queryChannelRange => inferInstanceAs (LawfulContents QueryChannelRange)
  | replyChannelRange => inferInstanceAs (LawfulContents ReplyChannelRange)
  | gossipTimestampFilter => inferInstanceAs (LawfulContents GossipTimestampFilter)

/-- `Typed kind` holds the contents of that kind. -/
@[simp] theorem kind_typed (kind : MessageKind) : Contents.kind kind.Typed = kind := by
  cases kind <;> rfl

end MessageKind

namespace Message

variable {α : Type} [Contents α] {m : Message}

/-- `contents` refuses a message of another kind by the names of both kinds. -/
theorem contents_of_kind_ne (h : m.kind? ≠ some (Contents.kind α)) :
    m.contents α = .error (.wrongKind (Contents.kind α) m.kind?) :=
  if_pos h

variable [LawfulContents α]

/-- `toMessage` makes the message again from what `contents` reads, without its remainder. -/
theorem WellFormed.toMessage_contents {a : α} (h : m.WellFormed) (ha : m.contents α = .ok a) :
    Contents.toMessage a = { m with remainder := none } := by
  have hkind : m.kind? = some (Contents.kind α) := kind?_of_contents ha
  obtain ⟨a', ha'⟩ := h.exists_values hkind
  -- No other contents have the values of the message.
  obtain rfl : a' = a := Except.ok.inj ((contents_of_values hkind ha').symm.trans ha)
  rw [Contents.toMessage, ← ha']
  exact h.assemble_values hkind

/-- With its own remainder a message is complete again. -/
theorem WellFormed.withRemainder_getD (h : m.WellFormed) :
    ({ m with remainder := none } : Message).withRemainder (m.remainder.getD []) = m := by
  rw [Message.withRemainder, nonEmpty_getD h.remainder_ne]

end Message

namespace MessageKind

/-- `contents` reads a message that can be had exactly if it is of the given kind, and tells the
    names of both kinds otherwise.  `toMessage` makes the same message of what was read, without its
    remainder, and `withRemainder` completes it.  Contents are read from the message that they make
    as they were, also after it has been written and read if their id list, in case they have one,
    can be told from its bytes. -/
theorem contents_correspond (kind : MessageKind) :
    (∀ m : Message, m.Obtainable →
      (m.kind? = some kind → ∃ t, m.contents kind.Typed = .ok t ∧
        Contents.toMessage t = { m with remainder := none } ∧
        (Contents.toMessage t).withRemainder (m.remainder.getD []) = m) ∧
      (m.kind? ≠ some kind → ∃ e, m.contents kind.Typed = .error e ∧
        e = .wrongKind kind m.kind? ∧
        e.message = s!"expected {kind.name} message, found {m.name}")) ∧
    ∀ t : kind.Typed, (Contents.toMessage t).contents kind.Typed = .ok t ∧
      ((∀ list, Value.idList list ∈ Contents.values t → list.encoding ≠ .other 0 ∧
        list.encoding ≠ .other 1 ∧ list.body.length ≤ IdList.maxBody) →
        ∃ m, Message.decode (Contents.toMessage t).encode = .ok m ∧
          m.contents kind.Typed = .ok t) := by
  refine ⟨fun m hm => ⟨fun hkind => ?_, fun hkind => ?_⟩, fun t => ⟨?_, fun hlists => ?_⟩⟩
  · -- A message of the kind
    have hwf : m.WellFormed := hm.wellFormed
    obtain ⟨t, ht⟩ := hwf.exists_contents (α := kind.Typed) (by rw [kind_typed, hkind])
    have hmessage := hwf.toMessage_contents ht
    refine ⟨t, ht, hmessage, ?_⟩
    rw [hmessage]
    exact hwf.withRemainder_getD
  · -- Any other message
    have herror := Message.contents_of_kind_ne (α := kind.Typed) (m := m) (by rwa [kind_typed])
    rw [kind_typed] at herror
    exact ⟨_, herror, rfl, rfl⟩
  · exact Message.contents_toMessage t
  · -- The frame is read as the same message, from which the same contents are read.
    have hdecode : Message.decode (Contents.toMessage t).encode = .ok (Contents.toMessage t) :=
      Contents.decode_encode_toMessage fun list hlist => by
        obtain ⟨h0, h1, hlength⟩ := hlists list hlist
        exact ⟨⟨h0, h1⟩, hlength⟩
    exact ⟨_, hdecode, Message.contents_toMessage t⟩

/-- A query with bytes of a later protocol version is read as a query and as no ping, and it comes
    back with these bytes. -/
theorem contents_correspond_trailing_bytes :
    let query : QueryShortChannelIds := ⟨.bitcoin, .plain [⟨7⟩]⟩
    let m := (Contents.toMessage query).withRemainder [1, 2]
    (∃ t, m.contents QueryShortChannelIds = .ok t ∧
      Contents.toMessage t = { m with remainder := none } ∧
      (Contents.toMessage t).withRemainder [1, 2] = m) ∧
    m.contents Ping = .error (.wrongKind .ping (some .queryShortChannelIds)) ∧
    ∃ m', Message.decode (Contents.toMessage query).encode = .ok m' ∧
      m'.contents QueryShortChannelIds = .ok query := by
  intro query m
  have hm : m.Obtainable := .withRemainder (.toMessage query) [1, 2]
  obtain ⟨hquery, -⟩ := (contents_correspond .queryShortChannelIds).1 m hm
  obtain ⟨-, hping⟩ := (contents_correspond .ping).1 m hm
  obtain ⟨e, he, rfl, -⟩ := hping (by decide)
  obtain ⟨-, hframe⟩ := (contents_correspond .queryShortChannelIds).2 query
  refine ⟨hquery (by decide), he, hframe fun list hlist => ?_⟩
  obtain rfl : list = query.ids := by
    have hmem : Value.idList list ∈ [Value.fixed query.chainHash, .idList query.ids] := hlist
    simpa using hmem
  exact ⟨by decide, by decide, by decide⟩

end MessageKind

end ChannelGossip
