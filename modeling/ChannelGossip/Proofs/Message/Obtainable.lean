import ChannelGossip.Proofs.Contents

/-! # Messages that can be had

A message comes from a frame, from loose values that fit a layout, or from typed contents, and its
remainder can be replaced.  Whatever is had in these ways is well-formed, so that it survives being
written and read again exactly if its id lists are canonical.  Main statements:

* `Message.Obtainable.wellFormed`   every message that can be had is well-formed
* `Message.isCanonical_iff`   what that asks of the id lists in a message
* `Message.decode_encode_eq_ok_iff`   which of them survive being written and read again -/

namespace ChannelGossip.Message

/-- The messages that can be had: by reading, by building, and by replacing a remainder. -/
inductive Obtainable : Message → Prop where
  | decode {frame : Bytes} {m : Message} (h : Message.decode frame = .ok m) : Obtainable m
  | decodeKnown {frame : Bytes} {m : Message} (h : Message.decodeKnown frame = .ok m) : Obtainable m
  | decodeAs {kind : MessageKind} {frame : Bytes} {m : Message}
      (h : Message.decodeAs kind frame = .ok m) : Obtainable m
  | ofValues {kind : MessageKind} {values : List Value} {m : Message}
      (h : Message.ofValues kind values = .ok m) : Obtainable m
  | toMessage {α : Type} [Contents α] [LawfulContents α] (a : α) : Obtainable (Contents.toMessage a)
  | withRemainder {m : Message} (h : Obtainable m) (bytes : Bytes) :
      Obtainable (m.withRemainder bytes)

/-- `mismatch?` finds none among as many values as there are slots if they are of their slots'
    kinds. -/
private theorem mismatch?_eq_none_iff {kind : MessageKind} {vs : List Value}
    (hlength : vs.length = kind.body.length) :
    mismatch? kind vs = none ↔ vs.map Value.kind = kind.body.map Slot.kind := by
  unfold mismatch?
  generalize kind.body = layout at hlength
  -- Slot by slot; the length keeps values and slots together.
  induction layout generalizing vs with
  | nil => simpa using hlength
  | cons slot layout ih =>
    cases vs with
    | nil => simp at hlength
    | cons v vs =>
      have ih := @ih vs (by simpa using hlength)
      simp only [List.zip_cons_cons, List.findSome?_cons, List.map_cons, List.cons.injEq]
      by_cases hkind : slot.kind = v.kind
      · rw [if_pos hkind]
        exact ih.trans (and_iff_right hkind.symm).symm
      · rw [if_neg hkind]
        exact iff_of_false nofun fun h => hkind h.1.symm

/-- `ofValues` succeeds exactly on values of their slots' kinds, and the message is assembled from
    them. -/
theorem ofValues_eq_ok_iff {kind : MessageKind} {vs : List Value} {m : Message} :
    ofValues kind vs = .ok m ↔
      vs.map Value.kind = kind.body.map Slot.kind ∧ m = assemble kind vs := by
  unfold ofValues
  -- The number of values is checked first, and is that of the slots if the kinds are.
  by_cases hlength : vs.length = kind.body.length
  · rw [if_neg (not_not.2 hlength), ← mismatch?_eq_none_iff hlength]
    cases mismatch? kind vs with
    | some fault => simp
    | none => simp [eq_comm]
  · rw [if_pos hlength]
    refine iff_of_false nofun fun h => hlength ?_
    simpa using congrArg List.length h.1

/-- `withRemainder` leaves a message well-formed. -/
theorem WellFormed.withRemainder {m : Message} (h : m.WellFormed) (bytes : Bytes) :
    (m.withRemainder bytes).WellFormed where
  layout_eq := h.layout_eq
  head_eq := h.head_eq
  remainder_ne := nonEmpty_ne_some_nil bytes

/-- Every message of `Obtainable` is well-formed. -/
theorem Obtainable.wellFormed {m : Message} (h : m.Obtainable) : m.WellFormed := by
  -- One case for each way to have a message; only the last one builds on another message.
  induction h with
  | decode h => exact (decode_eq_ok_iff.1 h).1
  | decodeKnown h => exact (decode_eq_ok_iff.1 (decodeKnown_eq_ok_iff.1 h).1).1
  | decodeAs h => exact (decode_eq_ok_iff.1 (decodeAs_eq_ok_iff.1 h).1).1
  | ofValues h =>
    obtain ⟨hkinds, rfl⟩ := ofValues_eq_ok_iff.1 h
    exact wellFormed_assemble hkinds
  | toMessage a => exact Contents.wellFormed_toMessage a
  | withRemainder _ bytes ih => exact ih.withRemainder bytes

/-- A message is canonical if every `idList` in it names its encoding by the byte it is written as
    and is short enough for its length. -/
theorem isCanonical_iff {m : Message} :
    m.IsCanonical ↔ ∀ field list, (field, Value.idList list) ∈ m.fields →
      list.encoding ≠ .other 0 ∧ list.encoding ≠ .other 1 ∧ list.body.length ≤ IdList.maxBody := by
  constructor
  · intro h field list hmem
    have hlist : list.IsCanonical := h _ hmem
    exact ⟨hlist.encoding.1, hlist.encoding.2, hlist.length_le⟩
  · intro h f hf
    obtain ⟨field, v⟩ := f
    cases v with
    | idList list =>
      obtain ⟨h0, h1, hlength⟩ := h field list hf
      exact ⟨⟨h0, h1⟩, hlength⟩
    | _ => trivial

/-- Of the messages that can be had, `decode` gives exactly those back from what `encode` writes in
    which no id list pretends to an encoding byte that means something else or is too long for its
    length. -/
theorem decode_encode_eq_ok_iff (m : Message) (h : m.Obtainable) :
    decode m.encode = .ok m ↔ ∀ field list, (field, Value.idList list) ∈ m.fields →
      list.encoding ≠ .other 0 ∧ list.encoding ≠ .other 1 ∧ list.body.length ≤ IdList.maxBody := by
  rw [decode_encode_iff, ← isCanonical_iff]
  exact and_iff_right h.wellFormed

/-- A query whose id list is one byte too long is written with the length zero and does not come
    back. -/
theorem decode_encode_too_long :
    let query : QueryShortChannelIds := ⟨.bitcoin, ⟨.uncompressed, List.replicate 65535 0⟩⟩
    let m := (Contents.toMessage query).withRemainder [1]
    m.Obtainable ∧ decode m.encode ≠ .ok m := by
  intro query m
  have hobtainable : m.Obtainable := .withRemainder (.toMessage query) [1]
  refine ⟨hobtainable, fun hdecode => ?_⟩
  -- The list is in the third slot.
  have hmem : (Field.encodedShortChannelIds, Value.idList query.ids) ∈ m.fields :=
    List.mem_cons_of_mem _ (List.mem_cons_of_mem _ List.mem_cons_self)
  have hlength : query.ids.body.length ≤ IdList.maxBody :=
    ((decode_encode_eq_ok_iff m hobtainable).1 hdecode _ _ hmem).2.2
  have hbody : query.ids.body.length = 65535 := List.length_replicate
  rw [hbody, IdList.maxBody] at hlength
  omega

end ChannelGossip.Message
