import Mathlib.Data.UInt
import ChannelGossip.Metrics
import ChannelGossip.Proofs.Metrics.Labels

/-! # Reading the metrics

A counter grows at the labels that are counted and in its total, by what is counted, and a
histogram counts each observation at its labels.  Main statements:

* `Counter.get_add`, `Counter.total_add`   what counting does to a counter
* `Histogram.count_observe`   what an observation does to a histogram -/

namespace ChannelGossip

/-- Labels with the same `sorted` as a single label are that label. -/
theorem Labels.sorted_singleton_eq_iff {labels : Labels} {label : String × String} :
    Labels.sorted [label] = labels.sorted ↔ labels = [label] := by
  rw [sorted_eq_sorted_iff, List.singleton_perm]
  exact eq_comm

namespace Counter

variable {c : Counter} {labels : Labels} {amount : UInt64}

/-- `add` shows at the labels that are counted, in any order, and at no others. -/
theorem get_add (c : Counter) (labels labels' : Labels) (amount : UInt64) :
    (c.add labels amount).get labels' =
      if labels.sorted = labels'.sorted then c.get labels' + amount else c.get labels' := by
  rw [get, add, Table.find?_insert]
  split
  · rename_i hsorted
    rw [Option.getD_some, get, get, hsorted]
  · rfl

/-- What was counted for all labels together. -/
def total (c : Counter) : UInt64 := (c.cells.entries.map Prod.snd).sum

/-- A cell that is replaced by `insertEntry` changes the sum of all cells by as much as it changes
    itself. -/
private theorem sum_insertEntry (key : Labels) (amount : UInt64)
    (entries : List (Labels × UInt64)) :
    ((Table.insertEntry key
        (((entries.find? (·.1 = key)).map Prod.snd).getD 0 + amount) entries).map Prod.snd).sum =
      (entries.map Prod.snd).sum + amount := by
  induction entries with
  | nil => simp [Table.insertEntry]
  | cons entry entries ih =>
    by_cases hkey : entry.1 = key
    · -- The cell itself
      simp only [Table.insertEntry, List.find?_cons, hkey, decide_true, if_true, Option.map_some,
        Option.getD_some, List.map_cons, List.sum_cons]
      exact add_right_comm _ _ _
    · -- Any other cell
      simp only [Table.insertEntry, List.find?_cons, hkey, decide_false, if_false, List.map_cons,
        List.sum_cons, ih]
      exact (add_assoc _ _ _).symm

/-- `add` adds to the total. -/
theorem total_add (c : Counter) (labels : Labels) (amount : UInt64) :
    (c.add labels amount).total = c.total + amount :=
  sum_insertEntry labels.sorted amount c.cells.entries

end Counter

/-- `observe` is counted at its labels and at no others. -/
theorem Histogram.count_observe (h : Histogram) (labels labels' : Labels) (nanos : Nat) :
    (h.observe labels nanos).count labels' =
      if labels.sorted = labels'.sorted then h.count labels' + 1 else h.count labels' := by
  rw [count, get, observe, Table.find?_insert]
  split
  · rename_i hsorted
    rw [Option.getD_some, count, get, get, hsorted]
    rfl
  · rfl

end ChannelGossip
