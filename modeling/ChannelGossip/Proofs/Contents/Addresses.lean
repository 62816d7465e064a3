import ChannelGossip.Contents.Announcement
import ChannelGossip.Proofs.NetAddress
import Mathlib.Data.List.Forall2

/-! # The addresses of a node

The addresses in the announcement of a node are whole descriptors, one after the other, up to the
end or up to the first descriptor of an unknown type.  Nothing from there on is looked at.  Main
statements:

* `NetAddress.spellsAll_iff`   a readable string falls into whole descriptors and a tail
* `NetAddress.readAll_append_of_unknown`   what is added to an unknown descriptor changes nothing
* `NodeAnnouncement.netAddresses_follow_grammar`   which addresses are read, and when none are -/

namespace ChannelGossip

namespace NetAddress

/-- What may stand behind the descriptors that are read: nothing, or a type that is not known with
    anything behind it. -/
def IsTail (bs : Bytes) : Prop := ∀ type ∈ bs.head?, ¬IsKnownType type

/-- An unknown type starts a tail. -/
theorem isTail_cons {type : UInt8} (h : ¬IsKnownType type) (bs : Bytes) : IsTail (type :: bs) := by
  intro type' htype
  rwa [← Option.some.inj htype]

/-- A string of `SpellsAll` falls into whole descriptors, one for each address, and a tail. -/
theorem spellsAll_iff {bs : Bytes} {as : List NetAddress} :
    SpellsAll bs as ↔
      ∃ ds tail, List.Forall₂ Spells ds as ∧ IsTail tail ∧ bs = ds.flatten ++ tail := by
  constructor
  · intro h
    induction h with
    | nil => exact ⟨[], [], .nil, by simp [IsTail], rfl⟩
    | unknown hunknown => exact ⟨[], _, .nil, isTail_cons hunknown _, rfl⟩
    | @cons d bs a as first rest ih =>
      obtain ⟨ds, tail, hds, htail, rfl⟩ := ih
      refine ⟨d :: ds, tail, .cons first hds, htail, ?_⟩
      rw [List.flatten_cons, List.append_assoc]
  · -- Back again, descriptor by descriptor from the front; the tail ends the string in either way.
    rintro ⟨ds, tail, hds, htail, rfl⟩
    induction hds with
    | nil =>
      cases tail with
      | nil => exact .nil
      | cons type tail => exact .unknown (htail type rfl)
    | cons first rest ih =>
      rw [List.flatten_cons, List.append_assoc]
      exact .cons first ih

/-- `readAll` does not look at bytes behind a descriptor of an unknown type. -/
theorem readAll_append_of_unknown {ds : List Bytes} {as : List NetAddress} {type : UInt8}
    (hds : List.Forall₂ Spells ds as) (hunknown : ¬IsKnownType type) (tail more : Bytes) :
    readAll (ds.flatten ++ type :: tail ++ more) = readAll (ds.flatten ++ type :: tail) := by
  have hread : ∀ bs, readAll (ds.flatten ++ type :: bs) = .ok as := fun bs =>
    (spellsAll_iff.2 ⟨ds, type :: bs, hds, isTail_cons hunknown bs, rfl⟩).readAll_eq
  rw [List.append_assoc, List.cons_append, hread, hread]

end NetAddress

open NetAddress

/-- `netAddresses` reads the addresses of a node exactly if they are whole descriptors behind which
    there is nothing or an unknown type; they are then the addresses that the descriptors spell, in
    order.  It fails exactly if a descriptor of a known type breaks off, and the error tells where.
    What is added behind an unknown type changes nothing. -/
theorem NodeAnnouncement.netAddresses_follow_grammar (n : NodeAnnouncement) :
    (∀ as, n.netAddresses = .ok as ↔ ∃ ds tail,
      List.Forall₂ Spells ds as ∧ IsTail tail ∧ n.addresses.bytes = ds.flatten ++ tail) ∧
    (∀ e, n.netAddresses = .error e ↔ ∃ part needed available,
      BreaksOff n.addresses.bytes part needed available ∧
        e = .malformed (.badAddress part needed available)) ∧
    ∀ (n' : NodeAnnouncement) (ds : List Bytes) (as : List NetAddress) (type : UInt8)
      (tail more : Bytes), List.Forall₂ Spells ds as → ¬IsKnownType type →
        n.addresses.bytes = ds.flatten ++ type :: tail →
        n'.addresses.bytes = n.addresses.bytes ++ more → n'.netAddresses = n.netAddresses := by
  refine ⟨fun as => readAll_eq_ok_iff.trans spellsAll_iff, fun e => readAll_eq_error_iff, ?_⟩
  intro n' ds as type tail more hds hunknown hbytes hmore
  rw [netAddresses, netAddresses, hmore, hbytes]
  exact readAll_append_of_unknown hds hunknown tail more

end ChannelGossip
