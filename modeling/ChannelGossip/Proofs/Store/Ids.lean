import ChannelGossip.Proofs.Wire.ShortChannelId
import ChannelGossip.Store

/-! # Ids of stored channels

Short channel ids are sorted as numbers and therefore by block.  The ids that a store lists for a
range of blocks are the stored ones in that range, each once and in order.  Main statements:

* `Table.mem_keys_iff`, `Table.find?_insert_eq_some_iff`   what a table holds
* `Store.mem_idsInBlocks`   which ids are listed
* `Store.idsInBlocks_ascending`   the order in which they are listed -/

namespace ChannelGossip

namespace Table

variable {κ α : Type} [DecidableEq κ] {t : Table κ α}

/-- `keys` are those that the table contains. -/
theorem mem_keys_iff {k : κ} : k ∈ t.keys ↔ t.contains k := by
  rw [keys, contains, List.mem_map, Option.isSome_iff_exists]
  constructor
  · intro h
    obtain ⟨e, he, rfl⟩ := h
    exact ⟨e.2, (t.mem_entries_iff e.1 e.2).1 he⟩
  · intro h
    obtain ⟨a, ha⟩ := h
    exact ⟨(k, a), (t.mem_entries_iff k a).2 ha, rfl⟩

/-- After `insert`, what is found is what was inserted, or was there under another key. -/
theorem find?_insert_eq_some_iff {k j : κ} {a b : α} :
    (t.insert k a).find? j = some b ↔ k = j ∧ a = b ∨ k ≠ j ∧ t.find? j = some b := by
  rw [find?_insert]
  by_cases hj : k = j
  · simp [hj]
  · simp [hj]

end Table

namespace Store

/-- `idsInBlocks` lists the stored ids of a range of blocks. -/
theorem mem_idsInBlocks {s : Store} {first stop : Nat} {id : ShortChannelId} :
    id ∈ s.idsInBlocks first stop ↔
      s.channels.contains id ∧ first ≤ id.block ∧ id.block < stop := by
  simp [idsInBlocks, Table.mem_keys_iff]

/-- `idsInBlocks` is in ascending order and lists none twice. -/
theorem idsInBlocks_ascending (s : Store) (first stop : Nat) :
    (s.idsInBlocks first stop).Pairwise (·.raw.toNat < ·.raw.toNat) := by
  have hkeys : s.channels.keys.Nodup := s.channels.nodup_keys
  exact ShortChannelId.sort_ascending (hkeys.sublist List.filter_sublist)

end Store

end ChannelGossip
