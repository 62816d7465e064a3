import ChannelGossip.Proofs.Contents
import ChannelGossip.Proofs.Node.Dispatch
import ChannelGossip.Proofs.RangeReplies.Answer

/-! # Receiving frames

A node reads the frames that reach it one after the other and handles the message in each.  What
another node sends in answer to queries is read and handled without fail, and filed as it comes.
Main statements:

* `Node.receive`, `Node.receiveAll`   a node that receives frames
* `Message.IsReadable`   messages that every node with default limits reads from their frames
* `Message.IsAnswer`   messages that queries are answered with
* `Node.receiveAll_answers`   what becomes of a node that receives answers -/

namespace ChannelGossip

/-! ## Receiving -/

namespace Node

/-- Handles the message in a frame from a session, if the frame is acceptable. -/
def receive (n : Node) (number : Nat) (frame : Bytes) : Step Disposition :=
  match n.limits.accept frame with
  | .ok m => n.dispatch n.dispatcher number m
  | .error e => ⟨n, [], .error e⟩

/-- Handles frames from a session one after the other and tells the first error, if there is one. -/
def receiveAll (n : Node) (number : Nat) : List Bytes → Step Unit
  | [] => ⟨n, [], .ok ()⟩
  | frame :: frames =>
    let step := n.receive number frame
    let rest := step.node.receiveAll number frames
    ⟨rest.node, step.queued ++ rest.queued, step.result.bind fun _ => rest.result⟩

/-- `receive` handles the message in an acceptable frame by `dispatch`. -/
theorem receive_of_accept {n : Node} {frame : Bytes} {m : Message}
    (h : n.limits.accept frame = .ok m) (number : Nat) :
    n.receive number frame = n.dispatch n.dispatcher number m := by
  rw [receive, h]

/-- `receiveAll` goes on with the node as it is after an acceptable frame that is handled without
    fail, and then everything hangs on the rest of the frames. -/
theorem receiveAll_cons_of_accept {n : Node} {number : Nat} {frame : Bytes} {m : Message}
    {d : Disposition} (haccept : n.limits.accept frame = .ok m)
    (hresult : (n.dispatch n.dispatcher number m).result = .ok d) (frames : List Bytes) :
    n.receiveAll number (frame :: frames) =
      let step := n.dispatch n.dispatcher number m
      let rest := step.node.receiveAll number frames
      ⟨rest.node, step.queued ++ rest.queued, rest.result⟩ := by
  rw [receiveAll, receive_of_accept haccept number, hresult]
  rfl

end Node

/-! ## Readable messages -/

namespace Message

/-- Whether every node with default limits reads a message from its frame. -/
def IsReadable (m : Message) : Prop := FrameLimits.default.accept m.encode = .ok m

theorem isReadable_iff {m : Message} :
    m.IsReadable ↔ m.encode.length ≤ frameLimit ∧ decode m.encode = .ok m := by
  rw [IsReadable, FrameLimits.accept_eq_ok_iff]
  simp [FrameLimits.default]

/-- What a node with any limits reads, every node with default limits reads. -/
theorem isReadable_of_accept {config : Config} {frame : Bytes} {m : Message}
    (h : (FrameLimits.ofConfig config).accept frame = .ok m) : m.IsReadable := by
  obtain ⟨hlength, hdecode, -⟩ := FrameLimits.accept_eq_ok_iff.1 h
  have hmax : (FrameLimits.ofConfig config).maxMessageBytes ≤ frameLimit :=
    config.maxMessageBytes_le
  obtain ⟨hwf, hcanonical, rfl⟩ := decode_eq_ok_iff.1 hdecode
  exact isReadable_iff.2 ⟨Nat.le_trans hlength hmax, hdecode⟩

/-- A part of an answer is readable if it is in plain encoding and no longer than a node can be set
    to make it. -/
theorem isReadable_replyChannelRange {r : ReplyChannelRange} {ids : List ShortChannelId}
    (hids : r.ids = .plain ids) (hlength : ids.length ≤ replyIdLimit) :
    (Contents.toMessage r).IsReadable := by
  refine isReadable_iff.2 ⟨?_, Contents.decode_encode_toMessage fun list hlist => ?_⟩
  · have hbody : r.ids.body.length = ids.length * ShortChannelId.width := by
      rw [hids]
      exact IdList.length_flatMap_encode ids
    rw [Contents.length_encode_replyChannelRange, hbody, ShortChannelId.width, frameLimit]
    rw [replyIdLimit] at hlength
    omega
  · obtain rfl : list = r.ids := by simpa [Contents.values] using hlist
    rw [hids]
    exact IdList.isCanonical_plain (RangeReplies.mul_width_le hlength)

/-- The end of an answer is readable. -/
theorem isReadable_replyShortChannelIds (r : ReplyShortChannelIds) :
    (Contents.toMessage r).IsReadable := by
  refine isReadable_iff.2 ⟨?_, Contents.decode_encode_toMessage fun list hlist => ?_⟩
  · rw [Contents.length_encode_replyShortChannelIds]
    decide
  · simp [Contents.values] at hlist

/-- Whether a message is one of those that queries are answered with on the given chain: something
    that is filed, or a part or the end of an answer. -/
def IsAnswer (chain : ChainHash) (m : Message) : Prop :=
  (∃ f, m.filing? chain = some f) ∨ m.kind? = some .replyChannelRange ∨
    m.kind? = some .replyShortChannelIds

end Message

/-! ## Receiving answers -/

/-- A message of `IsAnswer` is handled by `react` and not replied to. -/
theorem Gossip.exists_react_of_isAnswer {chain : ChainHash} {m : Message} (most : Nat) (s : Store)
    (h : m.IsAnswer chain) : ∃ r, react chain most s m = .ok r ∧ r.replies = [] := by
  rcases h with h | h | h
  · -- Something that is filed
    obtain ⟨f, hf⟩ := h
    exact exists_react_of_filing? most s hf
  · -- A part of an answer
    refine ⟨{ store := s }, ?_, rfl⟩
    simp only [react, h]
    rfl
  · -- The end of an answer
    refine ⟨{ store := s }, ?_, rfl⟩
    simp only [react, h]
    rfl

namespace Node

variable {n : Node} {number : Nat}

/-- `apply` for a reaction without replies succeeds in any session. -/
theorem apply_of_no_replies (hnumber : number < n.sessions.length) {r : Reaction}
    (h : r.replies = []) : (n.apply number r).result = .ok () := by
  have hlength : number < (n.noted number r).sessions.length := by
    show number < (n.sessions.modify number _).length
    rw [List.length_modify]
    exact hnumber
  have hsend : ((n.noted number r).send number []).result = .ok () := by
    rw [send_nil (List.getElem?_eq_getElem hlength)]
  unfold apply
  simp only [h]
  -- News are offered to others, which cannot fail.
  split
  · rfl
  · exact hsend

/-- The gossip service is in charge of messages of `IsAnswer`. -/
theorem serviceOf_of_isAnswer {m : Message} (n : Node) (h : m.IsAnswer n.config.chain) :
    ∃ kind, m.kind? = some kind ∧
      n.serviceOf kind = .gossip n.config.chain n.config.maxReplyIds := by
  rcases h with h | h | h
  · obtain ⟨f, hf⟩ := h
    refine ⟨f.kind, Message.kind?_of_filing? hf, ?_⟩
    cases f with
    | channel a => rfl
    | update u => rfl
    | node a => rfl
  · exact ⟨_, h, rfl⟩
  · exact ⟨_, h, rfl⟩

/-- `dispatch` of a message of `IsAnswer` succeeds in any session. -/
theorem dispatch_of_isAnswer {m : Message} (hnumber : number < n.sessions.length)
    (h : m.IsAnswer n.config.chain) : (n.dispatch n.dispatcher number m).result = .ok .handled := by
  obtain ⟨kind, hkind, hservice⟩ := n.serviceOf_of_isAnswer h
  obtain ⟨r, hreact, hreplies⟩ :=
    Gossip.exists_react_of_isAnswer n.config.maxReplyIds n.store h
  have hreact' : (n.serviceOf kind).react n.store m = .ok r := by
    rw [hservice]
    exact hreact
  rw [dispatch_eq_of_ok number hkind hreact']
  show (n.apply number r).result.map _ = _
  rw [apply_of_no_replies hnumber hreplies]
  rfl

/-- A node with default limits reads and handles the frames of messages of `IsAnswer` without fail,
    and files them as they come. -/
theorem receiveAll_answers (n : Node) (number : Nat) (hlimits : n.limits = .default)
    (hnumber : number < n.sessions.length) {ms : List Message}
    (hms : ∀ m ∈ ms, m.IsReadable ∧ m.IsAnswer n.config.chain) :
    let step := n.receiveAll number (ms.map Message.encode)
    step.result = .ok () ∧ step.node.store = n.store.fileAll n.config.chain ms := by
  -- Before each frame the node has the session, the chain and the limits.
  induction ms generalizing n with
  | nil => exact ⟨rfl, rfl⟩
  | cons m ms ih =>
    obtain ⟨hreadable, hanswer⟩ := hms m List.mem_cons_self
    have haccept : n.limits.accept m.encode = .ok m := hlimits ▸ hreadable
    have hresult := dispatch_of_isAnswer hnumber hanswer
    obtain ⟨hstore, hconfig, -, hlength⟩ := n.dispatch_frame number m
    obtain ⟨hrestResult, hrestStore⟩ := ih (n.dispatch n.dispatcher number m).node
      (by rw [limits, hconfig]; exact hlimits) (by rw [hlength]; exact hnumber) fun m' hm' => by
        rw [hconfig]
        exact hms m' (List.mem_cons_of_mem m hm')
    rw [hconfig, hstore] at hrestStore
    rw [List.map_cons, receiveAll_cons_of_accept haccept hresult]
    exact ⟨hrestResult, hrestStore⟩

end Node

end ChannelGossip
