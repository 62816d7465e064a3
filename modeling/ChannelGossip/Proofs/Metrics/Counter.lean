import Mathlib.Algebra.BigOperators.Group.List.Basic
import ChannelGossip.Proofs.Metrics
import ChannelGossip.Proofs.Metrics.Labels
import ChannelGossip.Proofs.Table

/-! # What a counter adds up

A counter that has taken in some additions has for each set of labels the sum of what was added for
it.  The order of the labels makes no difference to that, and neither does the order of the
additions, not even to the text of the counter.  Main statements:

* `find?_cells_ofAdditions`   which series there are, and how far each has counted
* `toNat_get_ofAdditions`   the number for a set of labels
* `render_ofAdditions_eq_of_perm`   the order of additions does not show -/

namespace ChannelGossip.Counter

variable {additions additions' : List (Labels × UInt64)} {labels : Labels} {name : String}

/-- The counter that has taken in some additions, one after the other. -/
def ofAdditions (additions : List (Labels × UInt64)) : Counter :=
  additions.foldl (fun c addition => c.add addition.1 addition.2) empty

/-- An addition is a `Table.update` of the cell of its labels. -/
theorem cells_ofAdditions (additions : List (Labels × UInt64)) :
    (ofAdditions additions).cells =
      additions.foldl (Table.update (·.1.sorted) (fun n addition => n + addition.2) 0) .empty :=
  (List.foldl_hom cells fun _ _ => rfl).symm

/-- A counter has a cell for each set of labels that was counted, with the sum of what was added for
    it. -/
theorem find?_cells_ofAdditions (additions : List (Labels × UInt64)) (key : Labels) :
    (ofAdditions additions).cells.find? key =
      if ∃ addition ∈ additions, addition.1.sorted = key then
        some ((additions.filter (·.1.sorted = key)).map Prod.snd).sum
      else none := by
  rw [cells_ofAdditions, Table.find?_foldl_update, List.sum_eq_foldl, List.foldl_map]

/-- `get` is the sum of what was added for a set of labels. -/
theorem get_ofAdditions (additions : List (Labels × UInt64)) (labels : Labels) :
    (ofAdditions additions).get labels = (Labels.operands additions labels).sum := by
  rw [get, cells_ofAdditions, Table.getD_find?_foldl_update, ← Labels.map_snd_filter_sorted,
    List.sum_eq_foldl, List.foldl_map]

/-- Numbers of 64 bits add up like others, except that they start again from zero. -/
theorem toNat_sum (ns : List UInt64) : ns.sum.toNat = (ns.map UInt64.toNat).sum % 2 ^ 64 := by
  induction ns with
  | nil => rfl
  | cons n ns ih => rw [List.sum_cons, UInt64.toNat_add, ih, List.map_cons, List.sum_cons,
      Nat.add_mod_mod]

/-- `get` is the sum of what was added for a set of labels, up to what 64 bits hold. -/
theorem toNat_get_ofAdditions (additions : List (Labels × UInt64)) (labels : Labels) :
    ((ofAdditions additions).get labels).toNat =
      ((Labels.operands additions labels).map UInt64.toNat).sum % 2 ^ 64 := by
  rw [get_ofAdditions, toNat_sum]

/-- A counter has one cell for each set of labels that was counted. -/
theorem mem_entries_ofAdditions_iff {key : Labels} {n : UInt64} :
    (key, n) ∈ (ofAdditions additions).cells.entries ↔
      ∃ addition ∈ additions, addition.1.sorted = key ∧
        (ofAdditions additions).get addition.1 = n := by
  simp only [get, cells_ofAdditions]
  exact Table.mem_entries_foldl_update_iff

/-- Additions in another order leave the same cells. -/
theorem entries_ofAdditions_perm (h : additions.Perm additions') :
    (ofAdditions additions).cells.entries.Perm (ofAdditions additions').cells.entries := by
  apply Table.entries_perm_of_find?_eq
  intro key
  -- The additions for a key are the same in another order, and a sum does not depend on that.
  rw [find?_cells_ofAdditions, find?_cells_ofAdditions,
    ((h.filter (·.1.sorted = key)).map Prod.snd).sum_eq]
  simp only [h.mem_iff]

/-- By `rowPrecedes` rows are in order by the text of their labels, and by number if that is the
    same. -/
theorem rowPrecedes_iff (a b : String × UInt64) :
    rowPrecedes a b = true ↔ toLex (a.1, a.2.toNat) ≤ toLex (b.1, b.2.toNat) := by
  simp only [rowPrecedes, Bool.or_eq_true, Bool.and_eq_true, decide_eq_true_eq, beq_iff_eq,
    Prod.Lex.toLex_le_toLex, UInt64.le_iff_toNat_le]

/-- Rows with the same text and number are the same. -/
theorem rowKey_injective :
    (fun row : String × UInt64 => toLex (row.1, row.2.toNat)).Injective := by
  intro a b h
  obtain ⟨htext, hnumber⟩ := Prod.mk.inj (toLex.injective h)
  exact Prod.ext htext (UInt64.toNat_inj.1 hnumber)

/-- The order of additions does not show in what `render` writes. -/
theorem render_ofAdditions_eq_of_perm (h : additions.Perm additions') (name : String) :
    (ofAdditions additions).render name = (ofAdditions additions').render name := by
  simp only [render]
  rw [mergeSort_eq_of_perm rowKey_injective rowPrecedes_iff ((entries_ofAdditions_perm h).map _)]

end ChannelGossip.Counter
