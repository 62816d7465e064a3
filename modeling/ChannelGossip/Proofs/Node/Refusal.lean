import ChannelGossip.Proofs.NetAddress
import ChannelGossip.Proofs.Node.Queries
import ChannelGossip.Proofs.Wire.IdList

/-! # What a node refuses

A message that has been read from a frame is refused for one of four reasons, all of them about the
message and the chain of the node and none about what the node has stored.  A refusal leaves no
trace.  Main statements:

* `Message.IsRefused`   the reasons and the errors that tell them
* `Node.react_eq_error_iff`   services refuse messages for these reasons
* `Node.dispatch_refuses_iff`   and so does the node, which stays as it was -/

namespace ChannelGossip

/-! ## Reasons -/

/-- The reasons for which a node on `chain` refuses a message: its type number is even and not in
    the catalogue, it is the announcement of a node in which an address breaks off, or it is a query
    by id for the chain with ids that are not plain or do not fill the list. -/
inductive Message.IsRefused (chain : ChainHash) (m : Message) : Error → Prop where
  | unknownType (unknown : m.kind? = none) (even : 2 ∣ m.typeId.toNat) :
      IsRefused chain m (.unknownType m.typeId)
  | address {a : NodeAnnouncement} {part : AddressPart} {needed available : Nat}
      (contents : m.contents NodeAnnouncement = .ok a)
      (breaksOff : NetAddress.BreaksOff a.addresses.bytes part needed available) :
      IsRefused chain m (.malformed (.badAddress part needed available))
  | encoding {q : QueryShortChannelIds} (contents : m.contents QueryShortChannelIds = .ok q)
      (own : q.chainHash = chain) (encoded : q.ids.encoding.byte ≠ 0) :
      IsRefused chain m (.unsupportedEncoding q.ids.encoding.byte)
  | ragged {q : QueryShortChannelIds} (contents : m.contents QueryShortChannelIds = .ok q)
      (own : q.chainHash = chain) (plain : q.ids.encoding.byte = 0)
      (ragged : ¬8 ∣ q.ids.body.length) :
      IsRefused chain m (.malformed (.raggedIds q.ids.body.length))

/-- What is refused by `IsRefused` is not the node's own fault. -/
theorem Message.IsRefused.isInternal_eq {chain : ChainHash} {m : Message} {e : Error}
    (h : m.IsRefused chain e) : e.isInternal = false := by
  cases h <;> rfl

/-! ## Contents that can be read -/

namespace Message.WellFormed

variable {α : Type} [Contents α] [LawfulContents α] {m : Message}

/-- What is done with the `contents` of a well-formed message of the right kind fails only after
    they have been read. -/
theorem of_contents_bind {β : Type} {f : α → Except Error β} {e : Error} (h : m.WellFormed)
    (hkind : m.kind? = some (Contents.kind α)) (herror : (m.contents α >>= f) = .error e) :
    ∃ a, m.contents α = .ok a ∧ f a = .error e := by
  obtain ⟨a, ha⟩ := h.exists_contents (α := α) hkind
  obtain herror | hrest := Except.bind_eq_error_iff.1 herror
  · cases ha.symm.trans herror
  · exact hrest

/-- The same of what is done with what `record` gives. -/
theorem of_record_bind {β : Type} {f : Recorded α → Except Error β} {e : Error} (h : m.WellFormed)
    (hkind : m.kind? = some (Contents.kind α)) (herror : (m.record α >>= f) = .error e) :
    ∃ a, m.record α = .ok a ∧ f a = .error e := by
  obtain ⟨a, ha⟩ := h.exists_contents (α := α) hkind
  have hrecord : m.record α = .ok ⟨a, m⟩ := Message.record_eq_ok_iff.2 ⟨ha, rfl⟩
  obtain herror | hrest := Except.bind_eq_error_iff.1 herror
  · cases hrecord.symm.trans herror
  · exact hrest

/-- The ids in a query that has been read from a frame can be told from their bytes. -/
theorem isCanonical_ids {q : QueryShortChannelIds} (h : m.WellFormed) (hcanonical : m.IsCanonical)
    (hq : m.contents QueryShortChannelIds = .ok q) : q.ids.IsCanonical :=
  h.isCanonical_of_contents hcanonical hq (v := .idList q.ids) (by simp [Contents.values])

end Message.WellFormed

/-! ## Services -/

namespace Gossip

variable {chain : ChainHash} {most : Nat} {s : Store} {m : Message} {e : Error}

/-- `onNodeAnnouncement` fails exactly if one of the addresses breaks off. -/
theorem onNodeAnnouncement_eq_error_iff {n : Recorded NodeAnnouncement} :
    onNodeAnnouncement s n = .error e ↔ ∃ part needed available,
      NetAddress.BreaksOff n.contents.addresses.bytes part needed available ∧
        e = .malformed (.badAddress part needed available) := by
  rw [← NetAddress.readAll_eq_error_iff]
  show _ ↔ n.contents.netAddresses = .error e
  constructor
  · intro h
    -- Once the addresses are read there is a reaction.
    obtain h | ⟨addresses, haddresses, h⟩ := Except.bind_eq_error_iff.1 h
    · exact h
    · obtain ⟨r, hr⟩ := exists_onNodeAnnouncement s haddresses
      have hbind : onNodeAnnouncement s n = .error e :=
        Except.bind_eq_error_iff.2 (.inr ⟨addresses, haddresses, h⟩)
      cases hr.symm.trans hbind
  · intro h
    exact Except.bind_eq_error_iff.2 (.inl h)

/-- `onQueryChannelRange` never fails: each part of the answer fits a list. -/
theorem onQueryChannelRange_ne_error (hpos : 1 ≤ most) (hmost : most ≤ replyIdLimit)
    (q : QueryChannelRange) : onQueryChannelRange chain most s q ≠ .error e := by
  unfold onQueryChannelRange
  intro h
  split at h
  · -- For the own chain there is an answer, and for another one an empty part is made.
    obtain ⟨rs, hrs, -⟩ := q.exists_replies s hpos hmost
    obtain h | ⟨replies, -, h⟩ := Except.bind_eq_error_iff.1 h
    · cases hrs.symm.trans h
    · cases h
  · obtain h | ⟨reply, -, h⟩ := Except.bind_eq_error_iff.1 h
    · cases h
    · cases h

/-- `onQueryShortChannelIds` fails exactly for a query for the own chain with ids that cannot be
    expanded. -/
theorem onQueryShortChannelIds_eq_error_iff {q : QueryShortChannelIds} :
    onQueryShortChannelIds chain s q = .error e ↔ q.chainHash = chain ∧ q.ids.ids = .error e := by
  unfold onQueryShortChannelIds
  by_cases hchain : q.chainHash = chain
  · rw [if_pos hchain, Except.bind_eq_error_iff]
    constructor
    · rintro (h | ⟨ids, -, h⟩)
      · exact ⟨hchain, h⟩
      · cases h
    · intro h
      exact .inl h.2
  · rw [if_neg hchain]
    constructor
    · intro h
      cases h
    · intro h
      exact absurd h.1 hchain

end Gossip

namespace Node

variable {n : Node} {m : Message} {e : Error}

/-- A query by id is one of `IsRefused` if its ids cannot be expanded. -/
theorem isRefused_of_ids {q : QueryShortChannelIds} {chain : ChainHash} (hwf : m.WellFormed)
    (hcanonical : m.IsCanonical) (hq : m.contents QueryShortChannelIds = .ok q)
    (hchain : q.chainHash = chain) (h : q.ids.ids = .error e) : m.IsRefused chain e := by
  -- The list was read from a frame, so its encoding tells the byte.
  have hids : q.ids.IsCanonical := hwf.isCanonical_ids hcanonical hq
  obtain ⟨hencoding, rfl⟩ | ⟨hencoding, hlength, rfl⟩ := IdList.ids_eq_error_iff.1 h
  · exact .encoding hq hchain (mt hids.encoding.byte_eq_zero_iff.1 hencoding)
  · exact .ragged hq hchain (hids.encoding.byte_eq_zero_iff.2 hencoding)
      (mt Nat.mod_eq_zero_of_dvd hlength)

/-- `Gossip.react` fails for announcements of nodes and queries by id only. -/
theorem isRefused_of_gossip (hwf : m.WellFormed) (hcanonical : m.IsCanonical)
    (h : Gossip.react n.config.chain n.config.maxReplyIds n.store m = .error e) :
    m.IsRefused n.config.chain e := by
  unfold Gossip.react at h
  -- One case for each kind of messages; reading the contents does not fail.
  split at h
  · rename_i hkind
    obtain ⟨a, -, h⟩ := hwf.of_record_bind hkind h
    cases h
  · rename_i hkind
    obtain ⟨u, -, h⟩ := hwf.of_record_bind hkind h
    cases h
  · rename_i hkind
    obtain ⟨a, ha, h⟩ := hwf.of_record_bind hkind h
    obtain ⟨part, needed, available, hbreaks, rfl⟩ := Gossip.onNodeAnnouncement_eq_error_iff.1 h
    exact .address (Message.record_eq_ok_iff.1 ha).1 hbreaks
  · rename_i hkind
    obtain ⟨q, -, h⟩ := hwf.of_contents_bind hkind h
    exact absurd h (Gossip.onQueryChannelRange_ne_error n.config.maxReplyIds_pos
      n.config.maxReplyIds_le q)
  · rename_i hkind
    obtain ⟨q, hq, h⟩ := hwf.of_contents_bind hkind h
    obtain ⟨hchain, h⟩ := Gossip.onQueryShortChannelIds_eq_error_iff.1 h
    exact isRefused_of_ids hwf hcanonical hq hchain h
  · rename_i hkind
    obtain ⟨f, -, h⟩ := hwf.of_contents_bind hkind h
    cases h
  · cases h

/-- What is done about pings and pongs never fails. -/
theorem react_ping_ne_error {answers : Bool} {most : UInt16} {s : Store} (hwf : m.WellFormed)
    (hkind : m.kind? = some .ping ∨ m.kind? = some .pong) :
    (Service.ping answers most).react s m ≠ .error e := by
  unfold Service.react
  intro h
  by_cases hpong : m.kind? = some .pong
  · simp only [if_pos hpong] at h
    cases h
  · simp only [if_neg hpong] at h
    obtain ⟨p, -, h⟩ := hwf.of_contents_bind (hkind.resolve_right hpong) h
    split at h
    · cases h
    · cases h

/-- If a service fails then the message is one of `IsRefused`. -/
theorem isRefused_of_react {kind : MessageKind} (hwf : m.WellFormed) (hcanonical : m.IsCanonical)
    (hkind : m.kind? = some kind) (h : (n.serviceOf kind).react n.store m = .error e) :
    m.IsRefused n.config.chain e := by
  cases kind with
  | init =>
    obtain ⟨i, -, h⟩ := hwf.of_contents_bind hkind h
    cases h
  | ping => exact absurd h (react_ping_ne_error hwf (.inl hkind))
  | pong => exact absurd h (react_ping_ne_error hwf (.inr hkind))
  | _ => exact isRefused_of_gossip hwf hcanonical h

/-- The service fails for the announcement of a node in which an address breaks off. -/
theorem react_of_breaksOff {a : NodeAnnouncement} {part : AddressPart} {needed available : Nat}
    (ha : m.contents NodeAnnouncement = .ok a)
    (hbreaks : NetAddress.BreaksOff a.addresses.bytes part needed available) :
    (n.serviceOf .nodeAnnouncement).react n.store m =
      .error (.malformed (.badAddress part needed available)) := by
  have hkind : m.kind? = some .nodeAnnouncement := Message.kind?_of_contents ha
  have hrecord : m.record NodeAnnouncement = .ok ⟨a, m⟩ := Message.record_eq_ok_iff.2 ⟨ha, rfl⟩
  show Gossip.react n.config.chain n.config.maxReplyIds n.store m = _
  simp only [Gossip.react, hkind, hrecord]
  exact Gossip.onNodeAnnouncement_eq_error_iff.2 ⟨part, needed, available, hbreaks, rfl⟩

/-- The service fails for a query by id for the node's chain if its ids cannot be expanded. -/
theorem react_of_ids {q : QueryShortChannelIds} (hq : m.contents QueryShortChannelIds = .ok q)
    (hchain : q.chainHash = n.config.chain) (h : q.ids.ids = .error e) :
    (n.serviceOf .queryShortChannelIds).react n.store m = .error e := by
  have hkind : m.kind? = some .queryShortChannelIds := Message.kind?_of_contents hq
  show Gossip.react n.config.chain n.config.maxReplyIds n.store m = _
  simp only [Gossip.react, hkind, hq]
  exact Gossip.onQueryShortChannelIds_eq_error_iff.2 ⟨hchain, h⟩

/-- A service fails for a message that has been read from a frame exactly by `IsRefused`. -/
theorem react_eq_error_iff {kind : MessageKind} (hwf : m.WellFormed) (hcanonical : m.IsCanonical)
    (hkind : m.kind? = some kind) :
    (n.serviceOf kind).react n.store m = .error e ↔ m.IsRefused n.config.chain e := by
  refine ⟨isRefused_of_react hwf hcanonical hkind, fun h => ?_⟩
  have hsame : ∀ kind', m.kind? = some kind' → kind = kind' := fun kind' hkind' =>
    Option.some.inj (hkind.symm.trans hkind')
  -- Back again, each reason tells which service is in charge.
  cases h with
  | unknownType unknown even => cases unknown.symm.trans hkind
  | address contents breaksOff =>
    obtain rfl := hsame _ (Message.kind?_of_contents contents)
    exact react_of_breaksOff contents breaksOff
  | @encoding q contents own encoded =>
    obtain rfl := hsame _ (Message.kind?_of_contents contents)
    have hencoding : q.ids.encoding ≠ .uncompressed := by
      intro huncompressed
      rw [huncompressed] at encoded
      exact encoded rfl
    exact react_of_ids contents own (IdList.ids_eq_error_iff.2 (.inl ⟨hencoding, rfl⟩))
  | @ragged q contents own plain ragged =>
    obtain rfl := hsame _ (Message.kind?_of_contents contents)
    have hids : q.ids.IsCanonical := hwf.isCanonical_ids hcanonical contents
    have hencoding : q.ids.encoding = .uncompressed := hids.encoding.byte_eq_zero_iff.1 plain
    have hlength : q.ids.body.length % ShortChannelId.width ≠ 0 := mt Nat.dvd_of_mod_eq_zero ragged
    exact react_of_ids contents own
      (IdList.ids_eq_error_iff.2 (.inr ⟨hencoding, hlength, rfl⟩))

/-- A message outside the catalogue is one of `IsRefused` if its type number is even. -/
theorem isRefused_iff_of_unknown {chain : ChainHash} (h : m.kind? = none) :
    m.IsRefused chain e ↔ ¬isOddType m.typeId ∧ e = .unknownType m.typeId := by
  have heven : ¬isOddType m.typeId ↔ 2 ∣ m.typeId.toNat := by
    simp only [isOddType, beq_iff_eq]
    omega
  rw [heven]
  constructor
  · intro hrefused
    cases hrefused with
    | unknownType unknown even => exact ⟨even, rfl⟩
    -- The other reasons are about messages of the catalogue.
    | address contents breaksOff => cases h.symm.trans (Message.kind?_of_contents contents)
    | encoding contents own encoded => cases h.symm.trans (Message.kind?_of_contents contents)
    | ragged contents own plain ragged => cases h.symm.trans (Message.kind?_of_contents contents)
  · rintro ⟨heven, rfl⟩
    exact .unknownType h heven

/-- `apply` does not fail for a session that somebody reads. -/
theorem result_apply {number : Nat} {s : Session} (hs : n.sessions[number]? = some s)
    (hopen : s.outbox.isOpen) (r : Reaction) : (n.apply number r).result = .ok () := by
  have hnoted : (n.noted number r).sessions[number]? = some (r.note.elim s s.record) := by
    rw [getElem?_noted hs, if_pos rfl]
  -- What is noted about the peer leaves its outbox open.
  have hopen' : (r.note.elim s s.record).outbox.isOpen := by
    rw [s.outbox_noted r.note]
    exact hopen
  have hsent := (send_of_isOpen hnoted hopen' r.replies).1
  unfold noted at hsent
  simp only [apply]
  split
  · rfl
  · exact hsent

/-- If `dispatch` fails for a message from a frame, from a session that somebody reads, then the
    message is one of `IsRefused`. -/
theorem isRefused_of_dispatch {number : Nat} {s : Session} {frame : Bytes}
    (hs : n.sessions[number]? = some s) (hopen : s.outbox.isOpen)
    (hframe : Message.decode frame = .ok m)
    (h : (n.dispatch n.dispatcher number m).result = .error e) : m.IsRefused n.config.chain e := by
  cases hkind : m.kind? with
  | none =>
    rw [dispatch_of_unknown number hkind] at h
    rw [isRefused_iff_of_unknown hkind]
    by_cases hodd : isOddType m.typeId
    · simp [hodd] at h
    · exact ⟨hodd, by simpa [hodd, eq_comm] using h⟩
  | some kind =>
    obtain ⟨hwf, hcanonical, -⟩ := Message.decode_eq_ok_iff.1 hframe
    cases hreact : (n.serviceOf kind).react n.store m with
    | error e' =>
      rw [dispatch_eq_of_error number hkind hreact] at h
      obtain rfl := Except.error.inj h
      exact isRefused_of_react hwf hcanonical hkind hreact
    | ok r =>
      rw [dispatch_eq_of_ok number hkind hreact, result_apply hs hopen r] at h
      cases h

/-- The error is `unknownType` exactly if the type number is even and not in the catalogue. -/
theorem exists_unknownType_iff {number : Nat} {s : Session} {frame : Bytes}
    (hs : n.sessions[number]? = some s) (hopen : s.outbox.isOpen)
    (hframe : Message.decode frame = .ok m) :
    (∃ id, (n.dispatch n.dispatcher number m).result = .error (.unknownType id)) ↔
      m.kind? = none ∧ 2 ∣ m.typeId.toNat := by
  constructor
  · rintro ⟨id, h⟩
    cases isRefused_of_dispatch hs hopen hframe h with
    | unknownType unknown even => exact ⟨unknown, even⟩
  · rintro ⟨hunknown, heven⟩
    have hrefused : m.IsRefused n.config.chain _ := .unknownType hunknown heven
    obtain ⟨hodd, -⟩ := (isRefused_iff_of_unknown hunknown).1 hrefused
    exact ⟨m.typeId, by rw [dispatch_of_unknown number hunknown]; simp [hodd]⟩

/-- `dispatch` fails for a message that has been read from a frame, from a session that somebody
    reads, exactly by `IsRefused`, and then leaves the node as it was and queues nothing. -/
theorem dispatch_refuses_iff (n : Node) (number : Nat) (s : Session) (m : Message)
    (hs : n.sessions[number]? = some s) (hopen : s.outbox.isOpen)
    (hm : ∃ frame, Message.decode frame = .ok m) (e : Error) :
    let step := n.dispatch n.dispatcher number m
    (step.result = .error e ↔ m.IsRefused n.config.chain e) ∧
      (step.result = .error e → step.node = n ∧ step.queued = []) := by
  obtain ⟨frame, hframe⟩ := hm
  obtain ⟨hwf, hcanonical, -⟩ := Message.decode_eq_ok_iff.1 hframe
  intro step
  cases hkind : m.kind? with
  | none =>
    have hstep : step = ⟨n, [], if isOddType m.typeId then .ok .ignored
        else .error (.unknownType m.typeId)⟩ := dispatch_of_unknown number hkind
    rw [hstep, isRefused_iff_of_unknown hkind]
    refine ⟨?_, fun _ => ⟨rfl, rfl⟩⟩
    by_cases hodd : isOddType m.typeId
    · simp [hodd]
    · simp [hodd, eq_comm]
  | some kind =>
    rw [← react_eq_error_iff hwf hcanonical hkind]
    cases hreact : (n.serviceOf kind).react n.store m with
    | error e' =>
      have hstep : step = ⟨n, [], .error e'⟩ := dispatch_eq_of_error number hkind hreact
      rw [hstep]
      exact ⟨by simp, fun _ => ⟨rfl, rfl⟩⟩
    | ok r =>
      have hresult : step.result = .ok .handled := by
        show (n.dispatch n.dispatcher number m).result = _
        rw [dispatch_eq_of_ok number hkind hreact, result_apply hs hopen r]
        rfl
      -- A message that its service does something about is handled.
      rw [hresult]
      exact ⟨by simp, nofun⟩

/-- A query for ids in compressed form is refused by the byte of its encoding. -/
theorem dispatch_refuses_compressed_ids :
    let n := (start (.ofChain .bitcoin)).openSession "asker" 1
    let q : QueryShortChannelIds := ⟨.bitcoin, ⟨.zlib, [7]⟩⟩
    let step := n.dispatch n.dispatcher 0 (Contents.toMessage q)
    step.result = .error (.unsupportedEncoding 1) ∧ step.node = n ∧ step.queued = [] := by
  intro n q step
  have hframe : Message.decode (Contents.toMessage q).encode = .ok (Contents.toMessage q) := by
    refine Contents.decode_encode_toMessage fun list hlist => ?_
    obtain rfl : list = q.ids := by simpa [Contents.values] using hlist
    exact ⟨by decide, by decide⟩
  obtain ⟨hrefused, hunchanged⟩ := dispatch_refuses_iff n 0 (.create "asker" 1)
    (Contents.toMessage q) rfl rfl ⟨_, hframe⟩ (.unsupportedEncoding 1)
  have hresult := hrefused.2 (.encoding (Message.contents_toMessage q) rfl (by decide))
  exact ⟨hresult, hunchanged hresult⟩

end Node

end ChannelGossip
