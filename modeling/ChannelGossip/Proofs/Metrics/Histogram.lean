import ChannelGossip.Proofs.Metrics
import ChannelGossip.Proofs.Metrics.Labels
import ChannelGossip.Proofs.Table

/-! # What a histogram tells

A histogram that has observed some durations has for each set of labels their number, their sum, and
how many of them each bucket takes in.  In its text the buckets therefore never decrease.  Main
statements:

* `get_ofObservations`   the tally for a set of labels
* `toNat_count_ofObservations`, `toNat_buckets_ofObservations`   what its numbers are
* `exists_render_showsDurations`   what the text shows, group by group -/

namespace ChannelGossip.Histogram

variable {observations : List (Labels × Nat)} {labels : Labels} {name : String}

/-! ## One tally -/

/-- The tally of some durations, given in microseconds. -/
def Tally.ofTimes (times : List UInt64) : Tally where
  count := .ofNat times.length
  sum := times.sum
  buckets := bounds.map fun bound => .ofNat (times.countP (· ≤ bound))

/-- `observe` adds a duration to those of a tally. -/
theorem Tally.observe_ofTimes (times : List UInt64) (time : UInt64) :
    (ofTimes times).observe time = ofTimes (times ++ [time]) := by
  have hbucket : ∀ bound : UInt64,
      (if time ≤ bound then UInt64.ofNat (times.countP (· ≤ bound)) + 1
        else UInt64.ofNat (times.countP (· ≤ bound))) =
      UInt64.ofNat ((times ++ [time]).countP (· ≤ bound)) := by
    -- A bucket grows if the duration is within its bound, and then it has one more to count.
    intro bound
    rw [List.countP_append, List.countP_singleton]
    split
    · rename_i hle
      rw [if_pos (decide_eq_true hle), UInt64.ofNat_add]
      rfl
    · rename_i hle
      rw [if_neg (by simpa using hle), Nat.add_zero]
  simp only [observe, ofTimes, List.length_append, List.length_singleton, UInt64.ofNat_add,
    List.sum_append, List.sum_singleton, List.zipWith_map_right, List.zipWith_self, hbucket]
  rfl

/-- Observations one after the other leave the tally of their durations. -/
theorem Tally.foldl_observe (times : List UInt64) : times.foldl observe zero = ofTimes times := by
  induction times using List.reverseRecOn with
  | nil => rfl
  | append_singleton times time ih =>
    rw [List.foldl_append, ih, List.foldl_cons, List.foldl_nil, observe_ofTimes]

/-- A duration goes into a bucket if its whole microseconds are within the bound; `microseconds`
    stops at a number above all bounds. -/
theorem microseconds_le_iff {bound : UInt64} (hbound : bound ∈ bounds) (nanos : Nat) :
    microseconds nanos ≤ bound ↔ nanos / 1000 ≤ bound.toNat := by
  have hsmall : ∀ bound ∈ bounds, bound.toNat < UInt64.size - 1 := by simp [bounds]
  have hlt := hsmall bound hbound
  rw [UInt64.le_iff_toNat_le, microseconds, UInt64.toNat_ofNat_of_lt' (by omega)]
  omega

/-! ## All tallies -/

/-- The histogram that has observed some durations, one after the other. -/
def ofObservations (observations : List (Labels × Nat)) : Histogram :=
  observations.foldl (fun h observation => h.observe observation.1 observation.2) empty

/-- How many of some durations take no more whole microseconds than a bound. -/
def within (durations : List Nat) (bound : UInt64) : Nat :=
  durations.countP (· / 1000 ≤ bound.toNat)

/-- An observation is a `Table.update` of the tally of its labels. -/
theorem tallies_ofObservations (observations : List (Labels × Nat)) :
    (ofObservations observations).tallies =
      observations.foldl (Table.update (·.1.sorted)
        (fun tally observation => tally.observe (microseconds observation.2)) .zero) .empty :=
  (List.foldl_hom tallies fun _ _ => rfl).symm

/-- `get` is the tally of the durations that were observed for a set of labels. -/
theorem get_ofObservations (observations : List (Labels × Nat)) (labels : Labels) :
    (ofObservations observations).get labels =
      .ofTimes ((Labels.operands observations labels).map microseconds) := by
  rw [get, tallies_ofObservations, Table.getD_find?_foldl_update, ← Labels.map_snd_filter_sorted,
    ← Tally.foldl_observe, List.foldl_map, List.foldl_map]

/-- A histogram has one tally for each set of labels that was observed. -/
theorem mem_entries_ofObservations_iff {key : Labels} {tally : Tally} :
    (key, tally) ∈ (ofObservations observations).tallies.entries ↔
      ∃ observation ∈ observations, observation.1.sorted = key ∧
        (ofObservations observations).get observation.1 = tally := by
  simp only [get, tallies_ofObservations]
  exact Table.mem_entries_foldl_update_iff

section

variable (hfew : observations.length < 2 ^ 64)
include hfew

/-- By `hfew` no count of the observations for a set of labels starts again from zero. -/
theorem toNat_ofNat_countP (labels : Labels) (p : Nat → Bool) :
    (UInt64.ofNat ((Labels.operands observations labels).countP p)).toNat =
      (Labels.operands observations labels).countP p := by
  have hlength : (Labels.operands observations labels).length ≤ observations.length := by
    rw [Labels.operands, List.length_map]
    exact List.length_filter_le _ _
  have hcount := List.countP_le_length (p := p) (l := Labels.operands observations labels)
  exact UInt64.toNat_ofNat_of_lt' (by simp only [UInt64.size]; omega)

/-- `count` is the number of durations that were observed for a set of labels. -/
theorem toNat_count_ofObservations (labels : Labels) :
    ((ofObservations observations).count labels).toNat =
      (Labels.operands observations labels).length := by
  have hall := toNat_ofNat_countP hfew labels fun _ => true
  rw [List.countP_true] at hall
  rw [count, get_ofObservations, Tally.ofTimes, List.length_map, hall]

/-- A bucket counts the durations `within` its bound that were observed for a set of labels. -/
theorem toNat_buckets_ofObservations (labels : Labels) :
    ((ofObservations observations).get labels).buckets.map UInt64.toNat =
      bounds.map (within (Labels.operands observations labels)) := by
  rw [get_ofObservations, Tally.ofTimes, List.map_map]
  apply List.map_congr_left
  intro bound hbound
  rw [Function.comp_apply, List.countP_map, toNat_ofNat_countP hfew, within]
  -- The durations are counted in microseconds in the bucket, and in nanoseconds here.
  apply List.countP_congr
  intro nanos _
  simp only [Function.comp_apply, decide_eq_true_eq, microseconds_le_iff hbound]

end

/-! ## Text -/

/-- The line of one bucket. -/
def bucketLine (name labels bound : String) (n : Nat) : String :=
  name ++ "_bucket\x7b" ++ (if labels.isEmpty then "" else labels ++ ",") ++ "le=\"" ++ bound ++
    "\"\x7d " ++ toString n

/-- The lines of a tally with some numbers. -/
def groupLines (name labels : String) (buckets : List Nat) (count sum : Nat) : List String :=
  bounds.zipWith (fun bound n => bucketLine name labels (toString bound.toNat) n) buckets
    ++ [bucketLine name labels "+Inf" count,
        name ++ "_sum\x7b" ++ labels ++ "\x7d " ++ toString sum,
        name ++ "_count\x7b" ++ labels ++ "\x7d " ++ toString count]

/-- `render` writes the `groupLines` of a tally with its own numbers. -/
theorem Tally.render_eq (t : Tally) (name labels : String) :
    t.render name labels =
      groupLines name labels (t.buckets.map UInt64.toNat) t.count.toNat t.sum.toNat := by
  rw [groupLines, List.zipWith_map_right]
  rfl

/-- Buckets take in more and more durations, and the last one takes in all of them. -/
theorem pairwise_within (durations : List Nat) :
    (bounds.map (within durations) ++ [durations.length]).Pairwise (· ≤ ·) := by
  have hbounds : bounds.Pairwise (· ≤ ·) := by decide
  rw [List.pairwise_append]
  refine ⟨List.pairwise_map.2 (hbounds.imp fun {a b} hab => ?_), List.pairwise_singleton _ _, ?_⟩
  · -- What is within a bound is within every larger one.
    apply List.countP_mono_left
    intro nanos _ hle
    have hab := UInt64.le_iff_toNat_le.1 hab
    simp only [decide_eq_true_eq] at *
    omega
  · -- No bucket takes in more durations than there are.
    intro n hn m hm
    obtain ⟨bound, -, rfl⟩ := List.mem_map.1 hn
    obtain rfl := List.mem_singleton.1 hm
    exact List.countP_le_length

/-- Behind its type `render` writes a group of lines for each set of labels that was observed. -/
theorem exists_render_ofObservations (observations : List (Labels × Nat)) (name : String) :
    ∃ groups : List (List String),
      (ofObservations observations).render name =
        s!"# TYPE {name} histogram" :: groups.flatten ∧
      ∀ group, group ∈ groups ↔ ∃ observation ∈ observations,
        ((ofObservations observations).get observation.1).render name
          observation.1.sorted.render = group := by
  refine ⟨_, rfl, fun group => ?_⟩
  rw [List.mem_mergeSort, List.mem_map]
  constructor
  · rintro ⟨⟨key, tally⟩, hentry, rfl⟩
    obtain ⟨observation, hobservation, rfl, rfl⟩ := mem_entries_ofObservations_iff.1 hentry
    exact ⟨observation, hobservation, rfl⟩
  · rintro ⟨observation, hobservation, rfl⟩
    exact ⟨(observation.1.sorted, _),
      mem_entries_ofObservations_iff.2 ⟨observation, hobservation, rfl, rfl⟩, rfl⟩

/-- What the lines of a group show for `durations`: how many of them each bucket takes in, and how
    many there are, which are numbers that never decrease from one line to the next. -/
def ShowsDurations (name labels : String) (durations : List Nat) (group : List String) : Prop :=
  ∃ buckets count sum, group = groupLines name labels buckets count sum ∧
    buckets = bounds.map (within durations) ∧ count = durations.length ∧
    (buckets ++ [count]).Pairwise (· ≤ ·)

/-- Each group of lines that `render` writes shows the durations that were observed for its
    labels. -/
theorem exists_render_showsDurations (hfew : observations.length < 2 ^ 64) (name : String) :
    ∃ groups : List (List String),
      (ofObservations observations).render name =
        s!"# TYPE {name} histogram" :: groups.flatten ∧
      (∀ observation ∈ observations, ∃ group ∈ groups,
        ShowsDurations name observation.1.sorted.render
          (Labels.operands observations observation.1) group) ∧
      ∀ group ∈ groups, ∃ observation ∈ observations,
        ShowsDurations name observation.1.sorted.render
          (Labels.operands observations observation.1) group := by
  have hshows : ∀ labels : Labels,
      ShowsDurations name labels.sorted.render (Labels.operands observations labels)
        (((ofObservations observations).get labels).render name labels.sorted.render) := by
    intro labels
    refine ⟨_, _, _, Tally.render_eq _ _ _, toNat_buckets_ofObservations hfew labels,
      toNat_count_ofObservations hfew labels, ?_⟩
    have hcount := toNat_count_ofObservations hfew labels
    rw [count] at hcount
    rw [toNat_buckets_ofObservations hfew, hcount]
    exact pairwise_within _
  obtain ⟨groups, htext, hgroups⟩ := exists_render_ofObservations observations name
  refine ⟨groups, htext, fun observation hobservation => ?_, fun group hgroup => ?_⟩
  · exact ⟨_, (hgroups _).2 ⟨observation, hobservation, rfl⟩, hshows observation.1⟩
  · obtain ⟨observation, hobservation, rfl⟩ := (hgroups group).1 hgroup
    exact ⟨observation, hobservation, hshows observation.1⟩

end ChannelGossip.Histogram
