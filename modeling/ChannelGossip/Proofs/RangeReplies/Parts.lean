import ChannelGossip.RangeReplies

/-! # Cutting ids into parts

The ids of an answer are cut into parts that are neither empty nor too long, and no id is lost or
moved.  Main statements:

* `firstLength_pos`, `firstLength_le`   the bounds of a part
* `flatten_parts`   the parts in order are the ids
* `length_of_mem_parts`   the bounds again, for every part -/

namespace ChannelGossip.RangeReplies

/-- `firstLength` takes at least one id. -/
theorem firstLength_pos (most : Nat) {ids : List ShortChannelId} (h : ids ≠ []) :
    0 < firstLength most ids := by
  have hids : 0 < ids.length := List.length_pos_iff.2 h
  -- Even if there is no room at all, one id is taken.
  have hhead : 0 < (ids.take (max most 1)).length := by
    rw [List.length_take]
    omega
  unfold firstLength
  split
  · exact hhead
  · dsimp only
    split
    · exact hhead
    · -- Ids are given back only if some are left.
      rename_i hwhole
      rw [List.isEmpty_iff] at hwhole
      exact List.length_pos_iff.2 hwhole

/-- `firstLength` takes no more ids than there is room for. -/
theorem firstLength_le (most : Nat) (ids : List ShortChannelId) :
    firstLength most ids ≤ max most 1 := by
  have hhead : (ids.take (max most 1)).length ≤ max most 1 := List.length_take_le _ _
  unfold firstLength
  split
  · exact hhead
  · dsimp only
    split
    · exact hhead
    · -- What is left after ids were given back is part of the head.
      refine Nat.le_trans (List.dropWhile_sublist _).length_le ?_
      rw [List.length_reverse]
      exact hhead

/-- `parts` cuts no ids into no parts. -/
@[simp] theorem parts_nil (most : Nat) : parts most [] = [] := by
  rw [parts]

/-- `parts` takes the first id with `firstLength` less one of the others, and cuts the rest. -/
theorem parts_cons (most : Nat) (id : ShortChannelId) (ids : List ShortChannelId) :
    parts most (id :: ids) =
      (id :: ids.take (firstLength most (id :: ids) - 1)) ::
        parts most (ids.drop (firstLength most (id :: ids) - 1)) := by
  rw [parts]

/-- The rest, counted from the first id on. -/
theorem drop_firstLength_cons (most : Nat) (id : ShortChannelId) (ids : List ShortChannelId) :
    ids.drop (firstLength most (id :: ids) - 1)
      = (id :: ids).drop (firstLength most (id :: ids)) := by
  conv => rhs; rw [← Nat.sub_add_cancel (firstLength_pos most (List.cons_ne_nil id ids))]
  rfl

/-- `parts` takes `firstLength` ids and cuts the rest. -/
theorem parts_of_ne_nil (most : Nat) {ids : List ShortChannelId} (h : ids ≠ []) :
    parts most ids =
      ids.take (firstLength most ids) :: parts most (ids.drop (firstLength most ids)) := by
  cases ids with
  | nil => exact absurd rfl h
  | cons id ids =>
    rw [parts_cons, List.take_cons (firstLength_pos most h), drop_firstLength_cons]

/-- The parts in order are the ids. -/
theorem flatten_parts (most : Nat) (ids : List ShortChannelId) :
    (parts most ids).flatten = ids := by
  -- What is left after the first part is cut in the same way.
  induction ids using parts.induct most with
  | case1 => rw [parts_nil, List.flatten_nil]
  | case2 id ids more ih =>
    rw [parts_cons, List.flatten_cons, ih, List.cons_append, List.take_append_drop]

/-- No part is empty, and none is too long. -/
theorem length_of_mem_parts {most : Nat} {ids part : List ShortChannelId}
    (h : part ∈ parts most ids) : part ≠ [] ∧ part.length ≤ max most 1 := by
  induction ids using parts.induct most with
  | case1 => simp at h
  | case2 id ids more ih =>
    rw [parts_cons, List.mem_cons] at h
    rcases h with rfl | h
    · -- The first part is as long as `firstLength` says.
      have hpos := firstLength_pos most (List.cons_ne_nil id ids)
      have hle := firstLength_le most (id :: ids)
      refine ⟨List.cons_ne_nil _ _, ?_⟩
      rw [List.length_cons, List.length_take]
      omega
    · exact ih h

/-- `parts` makes no parts only of no ids. -/
theorem parts_eq_nil_iff {most : Nat} {ids : List ShortChannelId} :
    parts most ids = [] ↔ ids = [] := by
  cases ids with
  | nil => simp
  | cons id ids => simp [parts_cons]

end ChannelGossip.RangeReplies
