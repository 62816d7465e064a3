import ChannelGossip.Proofs.Node.Queries
import ChannelGossip.Proofs.Node.Receive
import ChannelGossip.Proofs.Node.Run
import ChannelGossip.Proofs.Store.Copy

/-! # Two nodes

A node learns the channels of a range of blocks from another one: it sends a range query and, for
each part of the answer, a query by the ids in it, and takes in what the other node sends.  If its
store was empty before, it then holds exactly the records of these channels and the announcements
of their nodes.  Main statements:

* `Node.syncQueries`   the queries that are sent
* `Node.accept_syncQueries`   which of them the other node accepts
* `Node.sync_complete`   what is known at the end -/

namespace ChannelGossip

namespace Node

/-! ## The queries -/

/-- The query by the ids in the part `r` of an answer. -/
def followUp (chain : ChainHash) (r : ReplyChannelRange) : Message :=
  Contents.toMessage (⟨chain, r.ids⟩ : QueryShortChannelIds)

/-- The queries by which the peer of a session learns all about the channels that a range query asks
    for: the range query, and one more for each part of its answer. -/
def syncQueries (n : Node) (number : Nat) (q : QueryChannelRange) : List Message :=
  let m := Contents.toMessage q
  m :: (n.dispatch n.dispatcher number m).queued.filterMap fun x =>
    match x.message.contents ReplyChannelRange with
    | .ok r => some (followUp q.chainHash r)
    | .error _ => none

/-- What a store has to say to `followUp`. -/
def followUpAnswer (chain : ChainHash) (store : Store) (r : ReplyChannelRange) : List Message :=
  store.about [] r.listed ++ [Contents.toMessage (ReplyShortChannelIds.create chain true)]

variable {n : Node} {number : Nat} {s : Session} {q : QueryChannelRange}
  {rs : List ReplyChannelRange}

/-- `syncQueries` follows up each part of the answer. -/
theorem syncQueries_eq (hqueued : (n.dispatch n.dispatcher number (Contents.toMessage q)).queued =
      rs.map fun r => ⟨number, Contents.toMessage r⟩) :
    n.syncQueries number q = Contents.toMessage q :: rs.map (followUp q.chainHash) := by
  unfold syncQueries
  simp only [hqueued, List.filterMap_map, Function.comp_def, Message.contents_toMessage,
    List.filterMap_eq_map']

/-! ## Which queries are accepted -/

/-- A catalogued message that survives being written and read is accepted unless its frame is too
    long. -/
theorem accept_encode {m : Message} (hdecode : Message.decode m.encode = .ok m)
    (hkind : m.kind?.isSome) :
    n.limits.accept m.encode =
      if m.encode.length ≤ n.config.maxMessageBytes then .ok m
      else .error (.tooLarge m.encode.length n.config.maxMessageBytes) := by
  by_cases hlength : m.encode.length ≤ n.config.maxMessageBytes
  · rw [if_pos hlength]
    exact FrameLimits.accept_eq_ok_iff.2 ⟨hlength, hdecode, fun _ => hkind⟩
  · rw [if_neg hlength]
    exact if_pos (Nat.lt_of_not_le hlength)

/-- A query of `syncQueries` is the range query or follows up a part with plain ids, not too many of
    them. -/
theorem mem_syncQueries (hs : n.sessions[number]? = some s)
    (hopen : s.outbox.isOpen) (hchain : q.chainHash = n.config.chain) {m : Message}
    (hm : m ∈ n.syncQueries number q) :
    m = Contents.toMessage q ∨ ∃ r, m = followUp q.chainHash r ∧ r.ids = .plain r.listed ∧
      r.listed.length ≤ n.config.maxReplyIds := by
  obtain ⟨rs, hreact, hanswered, hplain⟩ :=
    react_queryChannelRange (Message.contents_toMessage q) hchain
  obtain ⟨-, hqueued, -⟩ := dispatch_of_replies hs hopen (Contents.kind?_toMessage q) hreact
  rw [List.map_map] at hqueued
  rw [syncQueries_eq hqueued] at hm
  rcases List.mem_cons.1 hm with rfl | hm
  · exact .inl rfl
  · obtain ⟨r, hr, rfl⟩ := List.mem_map.1 hm
    exact .inr ⟨r, rfl, hplain r hr, hanswered.length_le r hr⟩

/-- All of `syncQueries` are accepted whose frames are not too long. -/
theorem accept_syncQueries (hs : n.sessions[number]? = some s) (hopen : s.outbox.isOpen)
    (hchain : q.chainHash = n.config.chain) {m : Message} (hm : m ∈ n.syncQueries number q) :
    n.limits.accept m.encode =
      if m.encode.length ≤ n.config.maxMessageBytes then .ok m
      else .error (.tooLarge m.encode.length n.config.maxMessageBytes) := by
  rcases mem_syncQueries hs hopen hchain hm with rfl | ⟨r, rfl, hplain, hlength⟩
  · refine accept_encode (Contents.decode_encode_toMessage fun list hlist => ?_) ?_
    · simp [Contents.values] at hlist
    · rw [Contents.kind?_toMessage]
      rfl
  · refine accept_encode (Contents.decode_encode_toMessage fun list hlist => ?_) ?_
    · -- The list is the one that the part holds.
      obtain rfl : list = r.ids := by simpa [Contents.values] using hlist
      have hle : r.listed.length ≤ replyIdLimit := Nat.le_trans hlength n.config.maxReplyIds_le
      rw [hplain]
      exact IdList.isCanonical_plain (RangeReplies.mul_width_le hle)
    · rw [followUp, Contents.kind?_toMessage]
      rfl

/-- The longest of `syncQueries` is the range query or one with as many ids as the node puts into
    one part. -/
theorem length_encode_le_of_mem_syncQueries (hs : n.sessions[number]? = some s)
    (hopen : s.outbox.isOpen) (hchain : q.chainHash = n.config.chain) {m : Message}
    (hm : m ∈ n.syncQueries number q) :
    m.encode.length ≤ max 42 (37 + n.config.maxReplyIds * ShortChannelId.width) := by
  rcases mem_syncQueries hs hopen hchain hm with rfl | ⟨r, rfl, hplain, hlength⟩
  · rw [Contents.length_encode_queryChannelRange]
    exact Nat.le_max_left _ _
  · have hbody : r.ids.body.length = r.listed.length * ShortChannelId.width := by
      rw [hplain]
      exact IdList.length_flatMap_encode r.listed
    have hle := Nat.mul_le_mul_right ShortChannelId.width hlength
    rw [followUp, Contents.length_encode_queryShortChannelIds, hbody]
    omega

/-! ## What the other node sends -/

/-- The queries of `followUp` are answered one after the other. -/
theorem receiveAll_followUps {config : Config} {store : Store} (hconfig : n.config = config)
    (hstore : n.store = store) (hs : n.sessions[number]? = some s) (hopen : s.outbox.isOpen)
    (hplain : ∀ r ∈ rs, r.ids = .plain r.listed)
    (haccept : ∀ r ∈ rs, (FrameLimits.ofConfig config).accept (followUp config.chain r).encode
      = .ok (followUp config.chain r)) :
    let step := n.receiveAll number ((rs.map (followUp config.chain)).map Message.encode)
    step.result = .ok () ∧
      step.queued = (rs.flatMap (followUpAnswer config.chain store)).map (⟨number, ·⟩) ∧
      n.Delivers step.queued step.node := by
  -- The invariant: the session is read, and configuration and store are those from the start.
  induction rs generalizing n s with
  | nil => exact ⟨rfl, rfl, .refl n⟩
  | cons r rs ih =>
    have hids : r.ids.ids = .ok r.listed := by
      rw [hplain r List.mem_cons_self]
      exact IdList.ids_plain r.listed
    have haccept₀ : n.limits.accept (followUp config.chain r).encode =
        .ok (followUp config.chain r) := by
      rw [limits, hconfig]
      exact haccept r List.mem_cons_self
    obtain ⟨hresult, hqueued, hdelivers⟩ := dispatch_queryShortChannelIds hs hopen
      (Message.contents_toMessage (⟨config.chain, r.ids⟩ : QueryShortChannelIds))
      (by rw [hconfig]) hids
    -- After the first query the session is still read, and the store is the same.
    obtain ⟨s', hs', hreceives⟩ := hdelivers.receives number s hs
    obtain ⟨hrestResult, hrestQueued, hrestDelivers⟩ := ih (hdelivers.config_eq.trans hconfig)
      (hdelivers.store_eq.trans hstore) hs' (by rw [hreceives.isOpen_eq]; exact hopen)
      (fun r' hr' => hplain r' (List.mem_cons_of_mem r hr'))
      (fun r' hr' => haccept r' (List.mem_cons_of_mem r hr'))
    rw [hconfig, hstore] at hqueued
    rw [List.map_cons, List.map_cons, receiveAll_cons_of_accept haccept₀ hresult]
    refine ⟨hrestResult, ?_, hdelivers.trans hrestDelivers⟩
    rw [List.flatMap_cons, List.map_append, ← hrestQueued]
    exact congrArg (· ++ _) hqueued

/-- All of `syncQueries` together are answered by the parts of the range answer, followed by what
    the store has to say about each of them. -/
theorem receiveAll_syncQueries (hs : n.sessions[number]? = some s) (hopen : s.outbox.isOpen)
    (hchain : q.chainHash = n.config.chain)
    (haccept : ∀ m ∈ n.syncQueries number q, n.limits.accept m.encode = .ok m) :
    let step := n.receiveAll number ((n.syncQueries number q).map Message.encode)
    ∃ rs, q.IsAnsweredBy n.store n.config.maxReplyIds rs ∧ (∀ r ∈ rs, r.ids = .plain r.listed) ∧
      step.result = .ok () ∧
      step.queued = (rs.map Contents.toMessage ++
        rs.flatMap (followUpAnswer n.config.chain n.store)).map (⟨number, ·⟩) ∧
      n.Delivers step.queued step.node := by
  obtain ⟨rs, hreact, hanswered, hplain⟩ :=
    react_queryChannelRange (Message.contents_toMessage q) hchain
  obtain ⟨hresult, hqueued, hdelivers⟩ :=
    dispatch_of_replies hs hopen (Contents.kind?_toMessage q) hreact
  have hparts := hqueued
  rw [List.map_map] at hparts
  rw [syncQueries_eq hparts, hchain] at haccept ⊢
  -- The range query comes first and leaves the session open for the others.
  obtain ⟨s', hs', hreceives⟩ := hdelivers.receives number s hs
  obtain ⟨hrestResult, hrestQueued, hrestDelivers⟩ := receiveAll_followUps hdelivers.config_eq
    hdelivers.store_eq hs' (by rw [hreceives.isOpen_eq]; exact hopen) hplain
    fun r hr => haccept _ (List.mem_cons_of_mem _ (List.mem_map_of_mem hr))
  rw [List.map_cons, receiveAll_cons_of_accept (haccept _ List.mem_cons_self) hresult]
  refine ⟨rs, hanswered, hplain, hrestResult, ?_, hdelivers.trans hrestDelivers⟩
  rw [List.map_append, ← hrestQueued]
  exact congrArg (· ++ _) hqueued

/-! ## What is learned -/

variable {P : Message → Prop} {store full : Store} {chain : ChainHash} {most : Nat}

/-- The parts of an answer are messages of `IsAnswer`, and so is what is said about them. -/
theorem mem_answers (hfull : full.Holds chain Message.IsReadable)
    (hanswered : q.IsAnsweredBy full most rs) (hmost : most ≤ replyIdLimit)
    (hplain : ∀ r ∈ rs, r.ids = .plain r.listed) {m : Message}
    (hm : m ∈ rs.map Contents.toMessage ++ rs.flatMap (followUpAnswer chain full)) :
    m.IsReadable ∧ m.IsAnswer chain := by
  rcases List.mem_append.1 hm with hm | hm
  · -- A part of the range answer
    obtain ⟨r, hr, rfl⟩ := List.mem_map.1 hm
    have hlength := Nat.le_trans (hanswered.length_le r hr) hmost
    exact ⟨Message.isReadable_replyChannelRange (hplain r hr) hlength,
      .inr (.inl (Contents.kind?_toMessage r))⟩
  · obtain ⟨r, -, hm⟩ := List.mem_flatMap.1 hm
    rcases List.mem_append.1 hm with hm | hm
    · -- Something that is stored
      obtain ⟨hfiling, hreadable⟩ := hfull.mem_about hm
      exact ⟨hreadable, .inl hfiling⟩
    · -- The end of an answer by id
      rw [List.mem_singleton.1 hm]
      exact ⟨Message.isReadable_replyShortChannelIds _, .inr (.inr (Contents.kind?_toMessage _))⟩

/-- An empty store that files the answers becomes the part of `full` that was asked for. -/
theorem isPartOf_answers (hfull : full.Holds chain P) (hanswered : q.IsAnsweredBy full most rs) :
    (Store.empty.fileAll chain
      (rs.map Contents.toMessage ++ rs.flatMap (followUpAnswer chain full))).IsPartOf full
      (fun id => q.firstBlockNum.toNat ≤ id.block ∧
        id.block < q.firstBlockNum.toNat + q.numberOfBlocks.toNat)
      fun k => ∃ id r, full.channels.find? id = some r ∧ (q.firstBlockNum.toNat ≤ id.block ∧
        id.block < q.firstBlockNum.toNat + q.numberOfBlocks.toNat) ∧ k ∈ r.nodeIds := by
  -- The parts themselves are not filed.
  have hparts : Store.empty.fileAll chain (rs.map Contents.toMessage) = Store.empty := by
    refine Store.fileAll_eq_self fun m hm => ?_
    obtain ⟨r, -, rfl⟩ := List.mem_map.1 hm
    refine Store.fileMessage_of_none ?_ _
    simp only [Message.filing?, Contents.kind?_toMessage]
    rfl
  -- Nor is the end of an answer.
  have hend :
      (Contents.toMessage (ReplyShortChannelIds.create chain true)).filing? chain = none := by
    simp only [Message.filing?, Contents.kind?_toMessage]
    rfl
  have hpart := (Store.IsPartOf.empty full).fileAll_answers hfull hend
    (rs.map ReplyChannelRange.listed)
  rw [List.flatMap_map] at hpart
  rw [Store.fileAll_append, hparts]
  have hlisted : (rs.map ReplyChannelRange.listed).flatten = rs.flatMap ReplyChannelRange.listed :=
    List.flatMap_def.symm
  rw [hlisted] at hpart
  refine hpart.congr (fun id r hr => ?_) fun k n _ => ?_
  · have hknown : full.channels.contains id := by rw [Table.contains, hr, Option.isSome_some]
    rw [or_false, hanswered.mem_iff id]
    exact and_iff_right hknown
  · rw [or_false]
    constructor
    · intro h
      obtain ⟨id, hid, r, hr, hk⟩ := h
      exact ⟨id, r, hr, ((hanswered.mem_iff id).1 hid).2, hk⟩
    · intro h
      obtain ⟨id, r, hr, hrange, hk⟩ := h
      have hknown : full.channels.contains id := by rw [Table.contains, hr, Option.isSome_some]
      exact ⟨id, (hanswered.mem_iff id).2 ⟨hknown, hrange⟩, r, hr, hk⟩

/-- What `learner`, which knew nothing, has learned from `teller` after any run of that one.  Of the
    queries for a range of blocks, the teller accepts those that are no longer than it is set to
    accept.  If all are, then they are answered without fail, what is told is taken in without fail,
    and the learner then knows exactly the channels of the range, each as the teller has it
    recorded, and exactly what the teller knows of their nodes. -/
theorem sync_complete (teller learner : Node) (number number' : Nat) (s : Session)
    (q : QueryChannelRange) (hteller : teller.IsReachable)
    (hs : teller.sessions[number]? = some s) (hopen : s.outbox.isOpen)
    (hchain : q.chainHash = teller.config.chain)
    (hchain' : learner.config.chain = teller.config.chain)
    (hlimits : learner.limits = .default) (hfresh : learner.store = .empty)
    (hnumber' : number' < learner.sessions.length) :
    let queries := teller.syncQueries number q
    (∀ m ∈ queries, teller.limits.accept m.encode =
      if m.encode.length ≤ teller.config.maxMessageBytes then .ok m
      else .error (.tooLarge m.encode.length teller.config.maxMessageBytes)) ∧
    ((∀ m ∈ queries, m.encode.length ≤ teller.config.maxMessageBytes) →
      let told := teller.receiveAll number (queries.map Message.encode)
      let learned := learner.receiveAll number' (told.queued.map fun x => x.message.encode)
      told.result = .ok () ∧ (∀ x ∈ told.queued, x.session = number) ∧ learned.result = .ok () ∧
      (∀ id r, learned.node.store.channels.find? id = some r ↔
        teller.store.channels.find? id = some r ∧ q.firstBlockNum.toNat ≤ id.block ∧
          id.block < q.firstBlockNum.toNat + q.numberOfBlocks.toNat) ∧
      ∀ k a, learned.node.store.nodes.find? k = some a ↔
        teller.store.nodes.find? k = some a ∧ ∃ id r, teller.store.channels.find? id = some r ∧
          (q.firstBlockNum.toNat ≤ id.block ∧
            id.block < q.firstBlockNum.toNat + q.numberOfBlocks.toNat) ∧
          (k = r.announcement.contents.nodeId1 ∨ k = r.announcement.contents.nodeId2)) := by
  intro queries
  have haccept : ∀ m ∈ queries, teller.limits.accept m.encode =
      if m.encode.length ≤ teller.config.maxMessageBytes then .ok m
      else .error (.tooLarge m.encode.length teller.config.maxMessageBytes) :=
    fun m hm => accept_syncQueries hs hopen hchain hm
  refine ⟨haccept, fun hlengths => ?_⟩
  -- What the teller stores came from frames that it accepted itself.
  have hholds : teller.store.Holds teller.config.chain Message.IsReadable :=
    hteller.holds.imp fun m hm => hm.elim fun frame hframe => Message.isReadable_of_accept hframe
  obtain ⟨rs, hanswered, hplain, hresult, hqueued, -⟩ :=
    receiveAll_syncQueries hs hopen hchain fun m hm => by
      rw [haccept m hm, if_pos (hlengths m hm)]
  intro told learned
  -- Everything that is told is readable and either filed or part of an answer.
  have hanswers := fun m hm =>
    mem_answers (m := m) hholds hanswered teller.config.maxReplyIds_le hplain hm
  have hframes : told.queued.map (fun x => x.message.encode) = (rs.map Contents.toMessage ++
      rs.flatMap (followUpAnswer teller.config.chain teller.store)).map Message.encode := by
    show List.map _ (teller.receiveAll number (queries.map Message.encode)).queued = _
    rw [hqueued, List.map_map]
    rfl
  obtain ⟨hlearned, hstore⟩ := learner.receiveAll_answers number' hlimits hnumber'
    (by rw [hchain']; exact hanswers)
  -- What the learner files makes it a part of the teller's store.
  have hpart := isPartOf_answers hholds hanswered
  rw [← hframes] at hlearned hstore
  rw [hfresh, hchain'] at hstore
  rw [← hstore] at hpart
  refine ⟨hresult, ?_, hlearned, hpart.channels, fun k a => ?_⟩
  · -- Nothing is told to any other session.
    intro x hx
    rw [hqueued] at hx
    obtain ⟨m, -, rfl⟩ := List.mem_map.1 hx
    rfl
  · rw [hpart.nodes k a]
    simp only [ChannelRecord.nodeIds, List.mem_cons, List.not_mem_nil, or_false]

/-- A node that lists one id in a part tells another one about two of the three channels that it
    knows, in answer to three queries.  An update of one of them and a node of both are learned
    as well. -/
theorem sync_complete_two_channels :
    let config : Config := { Config.ofChain .bitcoin with
      maxReplyIds := 1
      maxReplyIds_pos := by decide
      maxReplyIds_le := by decide }
    let early := ChannelAnnouncement.blank .bitcoin ⟨5 * 0x10000000000⟩
    let late := ChannelAnnouncement.blank .bitcoin ⟨9 * 0x10000000000⟩
    let beyond := ChannelAnnouncement.blank .bitcoin ⟨10 * 0x10000000000⟩
    let update := ChannelUpdate.blank late 1600 0
    let node := NodeAnnouncement.blank 1500
    let gossip : List Message := [Contents.toMessage late, Contents.toMessage update,
      Contents.toMessage beyond, Contents.toMessage early, Contents.toMessage node]
    let teller := (start config).run (.openSession "learner" 1 :: gossip.map (.dispatch 0))
    let learner := (start config).openSession "teller" 1
    let q : QueryChannelRange := ⟨.bitcoin, 0, 10⟩
    let queries := teller.syncQueries 0 q
    let told := teller.receiveAll 0 (queries.map Message.encode)
    let learned := learner.receiveAll 0 (told.queued.map fun x => x.message.encode)
    queries.length = 3 ∧ told.result = .ok () ∧ learned.result = .ok () ∧
      learned.node.store.channels.find? early.shortChannelId =
        some { announcement := .ofContents early } ∧
      learned.node.store.channels.find? late.shortChannelId =
        some { announcement := .ofContents late, fromFirst := some (.ofContents update) } ∧
      learned.node.store.channels.find? beyond.shortChannelId = none ∧
      learned.node.store.nodes.find? node.nodeId = some (.ofContents node) := by
  intro config early late beyond update node gossip teller learner q
  have hreadable : ∀ m ∈ gossip, FrameLimits.default.accept m.encode = .ok m := by decide +kernel
  have hteller : teller.IsReachable := by
    refine ⟨config, _, rfl, fun e he m hm => ?_⟩
    rcases List.mem_cons.1 he with rfl | he
    · cases hm
    · obtain ⟨m', hm', rfl⟩ := List.mem_map.1 he
      obtain rfl := Option.some.inj hm
      exact ⟨_, hreadable m' hm'⟩
  have hconfig : teller.config = config := run_config _ _
  have hchain : q.chainHash = teller.config.chain := by rw [hconfig]; rfl
  have hsession : (teller.sessions[0]?).map (fun s => s.outbox.isOpen) = some true := by
    decide +kernel
  obtain ⟨s, hs, hopen⟩ := Option.map_eq_some_iff.1 hsession
  have hlengths : ∀ m ∈ teller.syncQueries 0 q,
      m.encode.length ≤ teller.config.maxMessageBytes := by
    intro m hm
    have hle := length_encode_le_of_mem_syncQueries hs hopen hchain hm
    rw [hconfig] at hle ⊢
    exact Nat.le_trans hle (by decide)
  have hqueries : (teller.syncQueries 0 q).length = 3 := by
    let parts : List ReplyChannelRange :=
      [⟨.bitcoin, 0, 9, 1, .plain [early.shortChannelId]⟩,
        ⟨.bitcoin, 9, 1, 1, .plain [late.shortChannelId]⟩]
    have hkeys : teller.store.channels.keys =
        [late.shortChannelId, beyond.shortChannelId, early.shortChannelId] := by
      decide +kernel
    have hknown : q.knownIds teller.store = [early.shortChannelId, late.shortChannelId] := by
      rw [QueryChannelRange.knownIds, Store.idsInBlocks, hkeys]
      exact ShortChannelId.sort_eq_of_perm (by decide +kernel) (by decide +kernel)
    have hreplies : q.replies (q.knownIds teller.store) teller.config.maxReplyIds = .ok parts := by
      rw [hknown, hconfig]
      decide +kernel
    obtain ⟨-, hparts, -⟩ := dispatch_of_replies hs hopen (Contents.kind?_toMessage q)
      (react_of_replies (Message.contents_toMessage q) hchain hreplies)
    rw [List.map_map] at hparts
    exact congrArg List.length (syncQueries_eq hparts)
  obtain ⟨htold, -, hlearned, hchannels, hnodes⟩ := (sync_complete teller learner 0 0 s q
    hteller hs hopen hchain (by rw [hconfig]; rfl) rfl rfl (by decide)).2 hlengths
  have hearly : teller.store.channels.find? early.shortChannelId =
      some { announcement := .ofContents early } := by
    decide +kernel
  have hlate : teller.store.channels.find? late.shortChannelId =
      some { announcement := .ofContents late, fromFirst := some (.ofContents update) } := by
    decide +kernel
  have hnode : teller.store.nodes.find? node.nodeId = some (.ofContents node) := by
    decide +kernel
  refine ⟨hqueries, htold, hlearned,
    (hchannels early.shortChannelId _).2 ⟨hearly, by decide, by decide⟩,
    (hchannels late.shortChannelId _).2 ⟨hlate, by decide, by decide⟩, ?_,
    (hnodes node.nodeId _).2 ⟨hnode, early.shortChannelId, _, hearly, by decide, .inl rfl⟩⟩
  -- The third channel is not in the range.
  rw [Option.eq_none_iff_forall_ne_some]
  intro r hr
  obtain ⟨-, -, hblock⟩ := (hchannels beyond.shortChannelId r).1 hr
  exact absurd hblock (by decide)

/-- A node that is set to accept frames of 41 bytes refuses every range query. -/
theorem sync_refused :
    let config : Config := { Config.ofChain .bitcoin with
      maxMessageBytes := 41
      two_le_maxMessageBytes := by decide
      maxMessageBytes_le := by decide }
    let teller := (start config).run [.openSession "learner" 1]
    let q : QueryChannelRange := ⟨.bitcoin, 0, 10⟩
    Contents.toMessage q ∈ teller.syncQueries 0 q ∧
      (teller.receive 0 (Contents.toMessage q).encode).result = .error (.tooLarge 42 41) := by
  intro config teller q
  refine ⟨List.mem_cons_self, ?_⟩
  have hlength : (Contents.toMessage q).encode.length = 42 :=
    Contents.length_encode_queryChannelRange q
  have haccept : teller.limits.accept (Contents.toMessage q).encode = .error (.tooLarge 42 41) := by
    rw [FrameLimits.accept, hlength]
    rfl
  rw [receive, haccept]

end Node

end ChannelGossip
