import ChannelGossip.Proofs.Contents
import ChannelGossip.Proofs.Node.Dispatch
import ChannelGossip.Proofs.RangeReplies.Answer

/-! # Queries

A query changes nothing but the outbox of the session that it came from, which gets the whole
answer, however long.  Main statements:

* `Node.dispatch_of_replies`   a reaction that only replies
* `Node.dispatch_queryChannelRange`   range queries are answered exactly
* `Node.dispatch_queryShortChannelIds`   queries by id are answered from the store -/

namespace ChannelGossip

/-- The configuration of a node for `chain` with default settings otherwise. -/
def Config.ofChain (chain : ChainHash) : Config where
  chainText := chain.hex
  chain
  maxMessageBytes := frameLimit
  unknownMessages := .preserve
  answerPings := true
  maxPongBytes := .ofNat pongLimit
  maxReplyIds := replyIdLimit
  two_le_maxMessageBytes := by decide
  maxMessageBytes_le := by decide
  maxPongBytes_le := by decide
  maxReplyIds_pos := by decide
  maxReplyIds_le := by decide

/-- A value of zeros only. -/
def FixedBytes.zeros (kind : FixedKind) : FixedBytes kind :=
  ⟨List.replicate kind.width 0, List.length_replicate⟩

/-- The announcement of a channel that is blank but for `chain` and `id`. -/
def ChannelAnnouncement.blank (chain : ChainHash) (id : ShortChannelId) : ChannelAnnouncement where
  nodeSignature1 := .zeros _
  nodeSignature2 := .zeros _
  bitcoinSignature1 := .zeros _
  bitcoinSignature2 := .zeros _
  channelFeatures := ⟨[], by decide⟩
  chainHash := chain
  shortChannelId := id
  nodeId1 := .zeros _
  nodeId2 := .zeros _
  bitcoinKey1 := .zeros _
  bitcoinKey2 := .zeros _

/-- The update of a channel that is blank but for its channel, its time and its flags. -/
def ChannelUpdate.blank (channel : ChannelAnnouncement) (timestamp : UInt32)
    (channelFlags : UInt8) : ChannelUpdate where
  signature := .zeros _
  chainHash := channel.chainHash
  shortChannelId := channel.shortChannelId
  timestamp
  messageFlags := 0
  channelFlags
  cltvExpiryDelta := 0
  htlcMinimumMsat := 0
  feeBaseMsat := 0
  feeProportionalMillionths := 0
  htlcMaximumMsat := 0

/-- The announcement of a node that is blank but for its time. -/
def NodeAnnouncement.blank (timestamp : UInt32) : NodeAnnouncement where
  signature := .zeros _
  features := ⟨[], by decide⟩
  timestamp
  nodeId := .zeros _
  rgbColor := .zeros _
  nodeAlias := .zeros _
  addresses := ⟨[], by decide⟩

/-- Contents next to the message that `toMessage` makes of them. -/
def Recorded.ofContents {α : Type} [Contents α] (a : α) : Recorded α := ⟨a, Contents.toMessage a⟩

namespace Node

variable {n : Node} {number : Nat} {s : Session}

/-- `send` to a session that somebody reads queues all messages. -/
theorem send_of_isOpen (hs : n.sessions[number]? = some s) (hopen : s.outbox.isOpen)
    (ms : List Message) :
    (n.send number ms).result = .ok () ∧ (n.send number ms).queued = ms.map (⟨number, ·⟩) := by
  obtain ⟨outbox, houtbox⟩ := Outbox.send?_of_isOpen hopen ms
  simp only [send, hs, houtbox, and_self]

/-- `noted` changes nothing for a reaction that only replies. -/
theorem noted_of_replies (n : Node) (number : Nat) (replies : List Message) :
    n.noted number { store := n.store, replies } = n := by
  have hid : (fun s : Session => s) = id := rfl
  show { n with sessions := n.sessions.modify number fun s => s } = n
  rw [hid, List.modify_id]

/-- By `hreact` the reaction only replies; then `dispatch` queues the replies to the session that
    the message came from. -/
theorem dispatch_of_replies (hs : n.sessions[number]? = some s) (hopen : s.outbox.isOpen)
    {m : Message} {kind : MessageKind} {replies : List Message} (hkind : m.kind? = some kind)
    (hreact : (n.serviceOf kind).react n.store m = .ok { store := n.store, replies }) :
    let step := n.dispatch n.dispatcher number m
    step.result = .ok .handled ∧ step.queued = replies.map (⟨number, ·⟩) ∧
      n.Delivers step.queued step.node := by
  -- There are no news, so the replies are all that is queued.
  have happly : n.apply number { store := n.store, replies } = n.send number replies := by
    rw [apply_of_no_relay n number rfl, noted_of_replies]
  obtain ⟨hresult, hqueued⟩ := send_of_isOpen hs hopen replies
  intro step
  have hstep : step =
      ⟨(n.send number replies).node, (n.send number replies).queued, .ok .handled⟩ := by
    show n.dispatch n.dispatcher number m = _
    rw [dispatch_eq_of_ok number hkind hreact, happly, hresult]
    rfl
  rw [hstep]
  exact ⟨rfl, hqueued, n.delivers_send number replies⟩

/-! ## Range queries -/

/-- The reaction to a range query for the node's chain is made from `QueryChannelRange.replies` with
    the ids of `QueryChannelRange.knownIds`. -/
theorem react_of_replies {m : Message} {q : QueryChannelRange} {rs : List ReplyChannelRange}
    (hm : m.contents QueryChannelRange = .ok q) (hchain : q.chainHash = n.config.chain)
    (hreplies : q.replies (q.knownIds n.store) n.config.maxReplyIds = .ok rs) :
    (n.serviceOf .queryChannelRange).react n.store m =
      .ok { store := n.store, replies := rs.map Contents.toMessage } := by
  have hkind : m.kind? = some .queryChannelRange := Message.kind?_of_contents hm
  show Gossip.react n.config.chain n.config.maxReplyIds n.store m = _
  simp only [Gossip.react, hkind, hm]
  show Gossip.onQueryChannelRange n.config.chain n.config.maxReplyIds n.store q = _
  rw [Gossip.onQueryChannelRange, if_pos hchain]
  exact Except.bind_eq_ok_iff.2 ⟨rs, hreplies, rfl⟩

/-- The reaction to a range query for the node's chain is an exact answer in plain encoding. -/
theorem react_queryChannelRange {m : Message} {q : QueryChannelRange}
    (hm : m.contents QueryChannelRange = .ok q) (hchain : q.chainHash = n.config.chain) :
    ∃ rs : List ReplyChannelRange,
      (n.serviceOf .queryChannelRange).react n.store m
        = .ok { store := n.store, replies := rs.map Contents.toMessage } ∧
      q.IsAnsweredBy n.store n.config.maxReplyIds rs ∧ ∀ r ∈ rs, r.ids = .plain r.listed := by
  obtain ⟨rs, hreplies, hanswered, hplain⟩ :=
    q.exists_replies n.store n.config.maxReplyIds_pos n.config.maxReplyIds_le
  exact ⟨rs, react_of_replies hm hchain hreplies, hanswered, hplain⟩

/-- A range query for the node's chain is answered as `IsAnsweredBy` says, part by part to the
    session that it came from, and no number in the answer has to be cut down. -/
theorem dispatch_queryChannelRange (n : Node) (number : Nat) (s : Session) (m : Message)
    (q : QueryChannelRange) (hs : n.sessions[number]? = some s) (hopen : s.outbox.isOpen)
    (hm : m.contents QueryChannelRange = .ok q) (hchain : q.chainHash = n.config.chain) :
    let step := n.dispatch n.dispatcher number m
    step.result = .ok .handled ∧
      (∃ (s' : Session) (rs : List ReplyChannelRange), step.node.sessions[number]? = some s' ∧
        s'.outbox.contents = s.outbox.contents ++ rs.map Contents.toMessage ∧
        step.queued = rs.map (fun r => ⟨number, Contents.toMessage r⟩) ∧
        q.IsAnsweredBy n.store n.config.maxReplyIds rs) ∧
      ∀ span ∈ q.answerSpans n.store n.config.maxReplyIds, span.Fits := by
  obtain ⟨rs, hreact, hanswered, -⟩ := react_queryChannelRange hm hchain
  obtain ⟨hresult, hqueued, hdelivers⟩ :=
    dispatch_of_replies hs hopen (Message.kind?_of_contents hm) hreact
  obtain ⟨s', hs', hreceives⟩ := hdelivers.receives number s hs
  -- All that was queued was queued to the session that asked.
  have hcontents := hreceives.contents_eq
  rw [hqueued, messagesTo_map_self] at hcontents
  rw [List.map_map] at hqueued
  refine ⟨hresult, ⟨s', rs, hs', hcontents, hqueued, hanswered⟩, fun span hspan => ?_⟩
  exact QueryChannelRange.fits_of_mem_answerSpans hspan

/-- A node that lists one id in a part answers in two parts if it knows two channels of the range.
    The parts come in the order of the ids, though the channels came the other way round, and the
    second one speaks for the last block of the query alone. -/
theorem dispatch_queryChannelRange_two_channels :
    let config : Config := { Config.ofChain .bitcoin with
      maxReplyIds := 1
      maxReplyIds_pos := by decide
      maxReplyIds_le := by decide }
    let early := ChannelAnnouncement.blank .bitcoin ⟨3 * 0x10000000000⟩
    let late := ChannelAnnouncement.blank .bitcoin ⟨9 * 0x10000000000⟩
    let update := ChannelUpdate.blank late 1600 0
    let filings : List Filing :=
      [.channel (.ofContents late), .update (.ofContents update), .channel (.ofContents early)]
    let n := { (start config).openSession "asker" 1 with store := filings.foldl .file .empty }
    let q : QueryChannelRange := ⟨.bitcoin, 0, 10⟩
    let parts : List ReplyChannelRange :=
      [⟨.bitcoin, 0, 9, 1, .plain [early.shortChannelId]⟩,
        ⟨.bitcoin, 9, 1, 1, .plain [late.shortChannelId]⟩]
    let step := n.dispatch n.dispatcher 0 (Contents.toMessage q)
    step.result = .ok .handled ∧
      step.queued = parts.map (fun r => ⟨0, Contents.toMessage r⟩) ∧
      q.IsAnsweredBy n.store 1 parts := by
  intro config early late update filings n q parts step
  have hs : n.sessions[0]? = some (.create "asker" 1) := rfl
  obtain ⟨hresult, ⟨_, rs, -, -, hqueued, hanswered⟩, -⟩ := dispatch_queryChannelRange n 0
    (.create "asker" 1) (Contents.toMessage q) q hs rfl (Message.contents_toMessage q) rfl
  have hkeys : n.store.channels.keys = [late.shortChannelId, early.shortChannelId] := by
    decide +kernel
  have hknown : q.knownIds n.store = [early.shortChannelId, late.shortChannelId] := by
    rw [QueryChannelRange.knownIds, Store.idsInBlocks, hkeys]
    exact ShortChannelId.sort_eq_of_perm (by decide +kernel) (by decide +kernel)
  have hreplies : q.replies (q.knownIds n.store) n.config.maxReplyIds = .ok parts := by
    rw [hknown]
    decide +kernel
  obtain ⟨-, hparts, -⟩ := dispatch_of_replies hs rfl (Contents.kind?_toMessage q)
    (react_of_replies (Message.contents_toMessage q) rfl hreplies)
  rw [List.map_map] at hparts
  -- Parts can be told from their messages, so what was queued are the parts of the answer.
  have hinj : Function.Injective fun r : ReplyChannelRange =>
      (⟨0, Contents.toMessage r⟩ : Queued) := by
    intro r r' h
    have hcontents := congrArg (fun x : Queued => x.message.contents ReplyChannelRange) h
    simp only [Message.contents_toMessage] at hcontents
    exact Except.ok.inj hcontents
  obtain rfl : parts = rs := hinj.list_map (hparts.symm.trans hqueued)
  exact ⟨hresult, hparts, hanswered⟩

/-! ## Queries by id -/

/-- The reaction to a query by id for the node's chain is what is stored `about` the ids. -/
theorem react_queryShortChannelIds {m : Message} {q : QueryShortChannelIds}
    {ids : List ShortChannelId} (hm : m.contents QueryShortChannelIds = .ok q)
    (hchain : q.chainHash = n.config.chain) (hids : q.ids.ids = .ok ids) :
    (n.serviceOf .queryShortChannelIds).react n.store m =
      .ok {
        store := n.store
        replies := n.store.about [] ids ++
          [Contents.toMessage (ReplyShortChannelIds.create n.config.chain true)] } := by
  have hkind : m.kind? = some .queryShortChannelIds := Message.kind?_of_contents hm
  show Gossip.react n.config.chain n.config.maxReplyIds n.store m = _
  simp only [Gossip.react, hkind, hm]
  show Gossip.onQueryShortChannelIds n.config.chain n.store q = _
  rw [Gossip.onQueryShortChannelIds, if_pos hchain]
  exact Except.bind_eq_ok_iff.2 ⟨ids, hids, rfl⟩

/-- A query by id for the node's chain queues what is stored `about` the ids to the session that it
    came from. -/
theorem dispatch_queryShortChannelIds {m : Message} {q : QueryShortChannelIds}
    {ids : List ShortChannelId} (hs : n.sessions[number]? = some s) (hopen : s.outbox.isOpen)
    (hm : m.contents QueryShortChannelIds = .ok q) (hchain : q.chainHash = n.config.chain)
    (hids : q.ids.ids = .ok ids) :
    let step := n.dispatch n.dispatcher number m
    step.result = .ok .handled ∧
      step.queued = (n.store.about [] ids ++
        [Contents.toMessage (ReplyShortChannelIds.create n.config.chain true)]).map (⟨number, ·⟩) ∧
      n.Delivers step.queued step.node :=
  dispatch_of_replies hs hopen (Message.kind?_of_contents hm)
    (react_queryShortChannelIds hm hchain hids)

end Node

end ChannelGossip
