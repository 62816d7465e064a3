import ChannelGossip.Proofs.Message.Extension
import ChannelGossip.Proofs.Message.Grammar
import ChannelGossip.Proofs.Replay.Lines
import ChannelGossip.Proofs.Text.Hex

/-! # The frames that are played

A frame in hexadecimal is read in either case of its letters, and what cannot be read is the fault
of the input.  The frames of a text are played up to the first one that ends the replay.  Main
statements:

* `Replay.read_toLower`   a frame in small letters holds the same message
* `Replay.EndsReplay`, `Replay.endsReplay_iff`   the frames that end a replay
* `Replay.cutFrames`   the frames of a text that are played -/

namespace ChannelGossip

/-! ## Frames that cannot be read -/

/-- `decodeKnown` fails if `decode` does or if the type number is not in the catalogue. -/
theorem Message.decodeKnown_eq_error_cases {frame : Bytes} {e : Error}
    (h : decodeKnown frame = .error e) :
    decode frame = .error e ∨ ∃ id, e = .unknownType id := by
  cases hpeek : peekType frame with
  | error fault =>
    left
    simpa [decodeKnown, decode, hpeek, bind, Except.bind] using h
  | ok id =>
    cases hkind : MessageKind.ofTypeId? id with
    | none =>
      right
      simp only [decodeKnown, hpeek, hkind, bind, Except.bind] at h
      exact ⟨id, (Except.error.inj h).symm⟩
    | some kind =>
      left
      simpa [decodeKnown, decode, hpeek, hkind, Layout.ofTypeId, bind, Except.bind] using h

/-- A frame for which `accept` fails is not the node's own fault. -/
theorem FrameLimits.isInternal_of_accept {limits : FrameLimits} {frame : Bytes} {e : Error}
    (h : limits.accept frame = .error e) : e.isInternal = false := by
  have hdecode : Message.decode frame = .error e → e.isInternal = false := by
    intro h
    obtain ⟨cause, rfl, -⟩ | ⟨slot, tail, needed, -, -, rfl, -⟩ := Message.decode_eq_error_cases h
    · rfl
    · rfl
  unfold accept at h
  -- It is too long, or it cannot be decoded, or its type is not known.
  split at h
  · cases h
    rfl
  · split at h
    · exact hdecode h
    · obtain h | ⟨id, rfl⟩ := Message.decodeKnown_eq_error_cases h
      · exact hdecode h
      · rfl

namespace Replay

variable {limits : FrameLimits} {text : String}

/-- `read` reads a frame that is hexadecimal and acceptable. -/
theorem read_eq_ok_iff {m : Message} {length : Nat} :
    read limits text = .ok (m, length) ↔ ∃ frame, Text.Hex.decode text = .ok frame ∧
      limits.accept frame = .ok m ∧ length = frame.length := by
  simp only [read, Except.bind_eq_ok_iff, Except.mapError_eq_ok_iff, pure, Except.pure,
    Except.ok.injEq, Prod.mk.injEq]
  constructor
  · rintro ⟨frame, hframe, m, hm, rfl, rfl⟩
    exact ⟨frame, hframe, hm, rfl⟩
  · rintro ⟨frame, hframe, hm, rfl⟩
    exact ⟨frame, hframe, m, hm, rfl, rfl⟩

/-- The message that `read` finds is one that `decode` gives. -/
theorem exists_decode_of_read {m : Message} {length : Nat}
    (h : read limits text = .ok (m, length)) : ∃ frame, Message.decode frame = .ok m := by
  obtain ⟨frame, -, haccept, -⟩ := read_eq_ok_iff.1 h
  exact ⟨frame, (FrameLimits.accept_eq_ok_iff.1 haccept).2.1⟩

/-- A frame for which `read` fails is not the node's own fault. -/
theorem isInternal_of_read {e : Error} (h : read limits text = .error e) :
    e.isInternal = false := by
  obtain h | ⟨frame, -, h⟩ := Except.bind_eq_error_iff.1 h
  · obtain ⟨fault, -, rfl⟩ := Except.mapError_eq_error_iff.1 h
    rfl
  · obtain h | ⟨m, -, h⟩ := Except.bind_eq_error_iff.1 h
    · exact FrameLimits.isInternal_of_accept h
    · cases h

/-- `read` finds the same message in small letters, or fails under the same code. -/
theorem read_toLower (limits : FrameLimits) (text : String) :
    (read limits text.toLower).mapError Error.code = (read limits text).mapError Error.code := by
  have h := Text.Hex.decode_toLower text
  unfold read
  generalize Text.Hex.decode text.toLower = lower at h ⊢
  generalize Text.Hex.decode text = same at h ⊢
  -- Hexadecimal text is read in both cases or in none, as the same bytes.
  cases lower with
  | error fault =>
    cases same with
    | error fault' => rfl
    | ok frame => cases h
  | ok frame =>
    cases same with
    | error fault' => cases h
    | ok frame' =>
      obtain rfl := Option.some.inj h
      rfl

/-- The messages that `read` finds in frames, with the lengths of the frames.  Frames that cannot be
    read are left out. -/
def decoded (limits : FrameLimits) (frames : List String) : List (Message × Nat) :=
  frames.filterMap fun text => (read limits text).toOption

theorem decoded_append (limits : FrameLimits) (frames frames' : List String) :
    decoded limits (frames ++ frames') = decoded limits frames ++ decoded limits frames' :=
  List.filterMap_append

/-! ## Frames that end a replay -/

/-- The frames that end a replay: those of at most the length that the node accepts, with an even
    type number outside the catalogue, unless the node refuses all numbers outside the
    catalogue. -/
def EndsReplay (limits : FrameLimits) (text : String) : Prop :=
  limits.unknownMessages = .preserve ∧ ∃ frame ∈ (Text.Hex.decode text).toOption,
    frame.length ≤ limits.maxMessageBytes ∧ 2 ≤ frame.length ∧
      MessageKind.ofTypeId? (.ofNat (Bytes.toNat (frame.take 2))) = none ∧
      2 ∣ Bytes.toNat (frame.take 2)

instance (limits : FrameLimits) : DecidablePred (EndsReplay limits) :=
  fun _ => inferInstanceAs (Decidable (_ ∧ _))

/-- `EndsReplay` is about the frames of messages of an even type outside the catalogue. -/
theorem endsReplay_iff :
    EndsReplay limits text ↔ ∃ m length, read limits text = .ok (m, length) ∧
      m.kind? = none ∧ 2 ∣ m.typeId.toNat := by
  constructor
  · rintro ⟨hpolicy, frame, hframe, hmax, hlength, hunknown, heven⟩
    have hhead : (frame.take 2).length = 2 := List.length_take_of_le hlength
    have hlt : Bytes.toNat (frame.take 2) < 65536 := by
      simpa [hhead] using Bytes.toNat_lt (frame.take 2)
    -- Nothing but the type number is read of such a frame.
    have hspells : Message.Spells (frame.take 2 ++ frame.drop 2) _ :=
      .uncatalogued hhead (UInt16.toNat_ofNat_of_lt' hlt).symm fun kind hkind => by
        rw [← hkind, MessageKind.ofTypeId?_typeId] at hunknown
        cases hunknown
    rw [List.take_append_drop] at hspells
    have haccept := FrameLimits.accept_eq_ok_iff.2
      ⟨hmax, hspells.decode, fun hreject => by cases hpolicy.symm.trans hreject⟩
    have hread := read_eq_ok_iff.2 ⟨frame, Except.mem_toOption_iff.1 hframe, haccept, rfl⟩
    exact ⟨_, _, hread, hunknown, by rwa [UInt16.toNat_ofNat_of_lt' hlt]⟩
  · rintro ⟨m, length, hread, hunknown, heven⟩
    obtain ⟨frame, hframe, haccept, rfl⟩ := read_eq_ok_iff.1 hread
    obtain ⟨hmax, hdecode, hknown⟩ := FrameLimits.accept_eq_ok_iff.1 haccept
    have hspells := Message.spells_of_decode hdecode
    have hpolicy : limits.unknownMessages = .preserve := by
      cases hpolicy : limits.unknownMessages with
      | preserve => rfl
      | reject =>
        have hsome := hknown hpolicy
        rw [hunknown] at hsome
        cases hsome
    refine ⟨hpolicy, frame, Except.mem_toOption_iff.2 hframe, hmax, hspells.two_le_length, ?_⟩
    rw [hspells.toNat_take, UInt16.ofNat_toNat]
    exact ⟨hunknown, heven⟩

/-! ## Frames that are played -/

/-- The front of a list up to the first element with the property `p`, which is the last one
    kept. -/
def cutAfter {α : Type} (p : α → Prop) [DecidablePred p] : List α → List α
  | [] => []
  | a :: as => if p a then [a] else a :: cutAfter p as

/-- A list that is cut by `cutAfter` still has the element that it is cut after. -/
theorem exists_mem_cutAfter_iff {α : Type} {p : α → Prop} [DecidablePred p] {as : List α} :
    (∃ a ∈ cutAfter p as, p a) ↔ ∃ a ∈ as, p a := by
  induction as with
  | nil => rfl
  | cons a as ih =>
    by_cases ha : p a
    · simp [cutAfter, ha]
    · simp [cutAfter, ha, ih]

/-- The frames of a text that are played: all up to the first with `EndsReplay`. -/
def cutFrames (limits : FrameLimits) (text : String) : List String :=
  cutAfter (EndsReplay limits) (frameTexts text)

end Replay

end ChannelGossip
