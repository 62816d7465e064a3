import Mathlib.Data.List.Nodup
import Mathlib.Data.List.Induction
import ChannelGossip.Table

/-! # Tables that are worked on operation by operation

A table that starts out empty and takes in operations, each of which changes the value under one
key, has under a key what the operations on that key come to.  Main statements:

* `find?_foldl_update`   what a run of operations leaves under a key
* `mem_entries_foldl_update_iff`   the entries that it leaves
* `entries_perm_of_find?_eq`   tables that answer look-ups in one way have the same entries -/

namespace ChannelGossip.Table

variable {κ α β : Type} [DecidableEq κ]

/-- Works `op` into the value under its key by `step`; before the first operation that is
    `start`. -/
def update (key : β → κ) (step : α → β → α) (start : α) (t : Table κ α) (op : β) : Table κ α :=
  t.insert (key op) (step ((t.find? (key op)).getD start) op)

variable {key : β → κ} {step : α → β → α} {start : α}

/-- A key without operations is as good as one on which they come to `start`. -/
private theorem getD_foldl_filter (ops : List β) (k : κ) :
    (if ∃ op ∈ ops, key op = k then some ((ops.filter (key · = k)).foldl step start)
      else none).getD start = (ops.filter (key · = k)).foldl step start := by
  split
  · rfl
  · rename_i hno
    have hnone : ops.filter (key · = k) = [] := by
      apply List.filter_eq_nil_iff.2
      intro op hop heq
      exact hno ⟨op, hop, of_decide_eq_true heq⟩
    rw [hnone]
    rfl

/-- A run of `update` leaves under `k` what the operations on this key come to, one after the other,
    and there is a value under the keys that were worked on and no others. -/
theorem find?_foldl_update (ops : List β) (k : κ) :
    (ops.foldl (update key step start) empty).find? k =
      if ∃ op ∈ ops, key op = k then some ((ops.filter (key · = k)).foldl step start)
      else none := by
  -- The last operation is the one that the table takes in last.
  induction ops using List.reverseRecOn with
  | nil => simp
  | append_singleton ops op ih =>
    rw [List.foldl_append, List.foldl_cons, List.foldl_nil, update, find?_insert,
      List.filter_append, List.foldl_append]
    by_cases hkey : key op = k
    · -- An operation on this key
      subst hkey
      rw [if_pos rfl, if_pos ⟨op, by simp, rfl⟩, ih, getD_foldl_filter]
      simp
    · -- An operation on another key
      rw [if_neg hkey, ih]
      simp [hkey]

/-- What a run of `update` leaves under `k`, with `start` where it leaves none. -/
theorem getD_find?_foldl_update (ops : List β) (k : κ) :
    ((ops.foldl (update key step start) empty).find? k).getD start =
      (ops.filter (key · = k)).foldl step start := by
  rw [find?_foldl_update, getD_foldl_filter]

/-- A run of `update` leaves one entry for each key that was worked on. -/
theorem mem_entries_foldl_update_iff {ops : List β} {k : κ} {a : α} :
    (k, a) ∈ (ops.foldl (update key step start) empty).entries ↔
      ∃ op ∈ ops, key op = k ∧
        ((ops.foldl (update key step start) empty).find? (key op)).getD start = a := by
  rw [mem_entries_iff, find?_foldl_update]
  constructor
  · intro h
    split at h
    · rename_i hworked
      obtain ⟨op, hop, rfl⟩ := hworked
      exact ⟨op, hop, rfl, by rw [getD_find?_foldl_update, Option.some.inj h]⟩
    · cases h
  · rintro ⟨op, hop, rfl, rfl⟩
    rw [if_pos ⟨op, hop, rfl⟩, getD_find?_foldl_update]

/-- Tables with the same `find?` have the same entries, in one order or another. -/
theorem entries_perm_of_find?_eq {t t' : Table κ α} (h : ∀ k, t.find? k = t'.find? k) :
    t.entries.Perm t'.entries := by
  apply (List.perm_ext_iff_of_nodup (.of_map _ t.nodup_keys) (.of_map _ t'.nodup_keys)).2
  -- No key has two entries, so it is enough to compare which entries there are.
  rintro ⟨k, a⟩
  rw [mem_entries_iff, mem_entries_iff, h]

end ChannelGossip.Table
