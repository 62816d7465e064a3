import ChannelGossip.Proofs.Metrics.Counter
import ChannelGossip.Proofs.Metrics.Histogram

/-! # Metrics over a run

A run of the metrics counts and observes in some order.  Each counter takes in what was added to it
and the histogram takes in what was observed, so that all numbers are sums over the run, and the
order in which counters were counted does not show.  Main statements:

* `counter_run`, `durations_run`   a run splits into what each counter and the histogram take in
* `adds_up_in_any_order`   what all numbers are after a run, and that order does not show -/

namespace ChannelGossip.Metrics

/-- One thing that is counted or observed. -/
inductive Step where
  /-- One more for a set of labels of a counter. -/
  | increment (name : CounterName) (labels : Labels)
  /-- An amount for a set of labels of a counter. -/
  | add (name : CounterName) (labels : Labels) (amount : UInt64)
  /-- A duration for a set of labels of the histogram. -/
  | observe (labels : Labels) (nanos : Nat)
deriving Repr, DecidableEq

namespace Step

/-- Takes a step. -/
def take (m : Metrics) : Step → Metrics
  | increment name labels => m.increment name labels
  | add name labels amount => m.add name labels amount
  | observe labels nanos => m.observe labels nanos

/-- What a step adds to a counter. -/
def addition? (name : CounterName) : Step → Option (Labels × UInt64)
  | increment other labels => if name = other then some (labels, 1) else none
  | add other labels amount => if name = other then some (labels, amount) else none
  | observe .. => none

/-- What a step observes. -/
def observation? : Step → Option (Labels × Nat)
  | increment .. | add .. => none
  | observe labels nanos => some (labels, nanos)

end Step

/-- The metrics after a run. -/
def run (steps : List Step) : Metrics := steps.foldl Step.take empty

/-- What a run adds to a counter. -/
def additions (name : CounterName) (steps : List Step) : List (Labels × UInt64) :=
  steps.filterMap (Step.addition? name)

/-- What a run observes. -/
def observations (steps : List Step) : List (Labels × Nat) := steps.filterMap Step.observation?

/-- A step adds its `addition?` to a counter. -/
theorem counter_take (m : Metrics) (step : Step) (name : CounterName) :
    (step.take m).counter name =
      match step.addition? name with
      | some addition => (m.counter name).add addition.1 addition.2
      | none => m.counter name := by
  have hadd : ∀ (other : CounterName) (labels : Labels) (amount : UInt64),
      (m.add other labels amount).counter name =
        match if name = other then some (labels, amount) else none with
        | some addition => (m.counter name).add addition.1 addition.2
        | none => m.counter name := by
    intro other labels amount
    rw [counter_add]
    -- A step is for this counter or for another one.
    by_cases hname : name = other
    · subst hname
      simp
    · simp [hname]
  cases step with
  | increment other labels => exact hadd other labels 1
  | add other labels amount => exact hadd other labels amount
  | observe labels nanos => cases name <;> rfl

/-- A step adds its `observation?` to the histogram. -/
theorem durations_take (m : Metrics) (step : Step) :
    (step.take m).durations =
      match step.observation? with
      | some observation => m.durations.observe observation.1 observation.2
      | none => m.durations := by
  cases step with
  | increment other labels => cases other <;> rfl
  | add other labels amount => cases other <;> rfl
  | observe labels nanos => rfl

/-- After a run a counter has taken in its `additions`. -/
theorem counter_run (steps : List Step) (name : CounterName) :
    (run steps).counter name = .ofAdditions (additions name steps) := by
  -- Steps that add nothing to the counter leave it as it is, so that only the others count.
  have hempty : empty.counter name = .empty := by cases name <;> rfl
  rw [run, Counter.ofAdditions, additions, List.foldl_filterMap, ← hempty]
  apply (List.foldl_hom (counter · name) fun m step => ?_).symm
  rw [counter_take]
  cases step.addition? name <;> rfl

/-- After a run the histogram has taken in the `observations`. -/
theorem durations_run (steps : List Step) :
    (run steps).durations = .ofObservations (observations steps) := by
  rw [run, Histogram.ofObservations, observations, List.foldl_filterMap]
  -- Steps that observe nothing leave the histogram as it is.
  apply (List.foldl_hom durations fun m step => ?_).symm
  rw [durations_take]
  cases step.observation? <;> rfl

/-- The order of a run does not show in what `render` writes for a counter. -/
theorem render_counter_run_eq_of_perm {steps steps' : List Step} (h : steps'.Perm steps)
    (name : CounterName) (series : String) :
    ((run steps').counter name).render series = ((run steps).counter name).render series := by
  rw [counter_run, counter_run]
  exact Counter.render_ofAdditions_eq_of_perm (h.filterMap _) series

/-- After a run the number of a counter for a set of labels is the sum, up to what 64 bits hold, of
    its `additions` for these labels in any order, and the histogram has counted the `observations`
    for them, all together and in each bucket those within its bound.  In the text of the histogram
    the buckets never decrease from one to the next, and none exceeds the bucket without a bound,
    which shows the same number as the count.  A run in another order leaves the same text of the
    counters. -/
theorem adds_up_in_any_order (steps : List Step) (hfew : (observations steps).length < 2 ^ 64) :
    (∀ name labels, (((run steps).counter name).get labels).toNat =
      ((Labels.operands (additions name steps) labels).map UInt64.toNat).sum % 2 ^ 64) ∧
    (∀ labels,
      ((run steps).durations.count labels).toNat =
        (Labels.operands (observations steps) labels).length ∧
      ((run steps).durations.get labels).buckets.map UInt64.toNat =
        Histogram.bounds.map (Histogram.within (Labels.operands (observations steps) labels))) ∧
    (∀ series, ∃ groups : List (List String),
      (run steps).durations.render series = s!"# TYPE {series} histogram" :: groups.flatten ∧
      (∀ observation ∈ observations steps, ∃ group ∈ groups,
        Histogram.ShowsDurations series observation.1.sorted.render
          (Labels.operands (observations steps) observation.1) group) ∧
      ∀ group ∈ groups, ∃ observation ∈ observations steps,
        Histogram.ShowsDurations series observation.1.sorted.render
          (Labels.operands (observations steps) observation.1) group) ∧
    ∀ steps' : List Step, steps'.Perm steps →
      (∀ name series,
        ((run steps').counter name).render series = ((run steps).counter name).render series) ∧
      (run steps').renderCounters = (run steps).renderCounters := by
  rw [durations_run]
  refine ⟨fun name labels => ?_, fun labels => ⟨?_, ?_⟩, fun series => ?_,
    fun steps' hperm => ⟨?_, ?_⟩⟩
  · rw [counter_run]
    exact Counter.toNat_get_ofAdditions _ labels
  · exact Histogram.toNat_count_ofObservations hfew labels
  · exact Histogram.toNat_buckets_ofObservations hfew labels
  · exact Histogram.exists_render_showsDurations hfew series
  · -- Only the text is the same in another order, not the cells.
    exact render_counter_run_eq_of_perm hperm
  · simp only [renderCounters, render_counter_run_eq_of_perm hperm]

/-- A counter that is full starts again from zero, also if its labels come in another order, and a
    duration of 40.5 microseconds is within all bounds but the first. -/
theorem adds_up_past_the_largest_number :
    let steps : List Step :=
      [.add .ignored [("a", "1"), ("b", "2")] 18446744073709551615,
        .observe [("type", "ping")] 40500, .increment .ignored [("b", "2"), ("a", "1")]]
    (observations steps).length < 2 ^ 64 ∧
      (((run steps).counter .ignored).get [("a", "1"), ("b", "2")]).toNat = 0 ∧
      ((run steps).durations.get [("type", "ping")]).buckets.map UInt64.toNat =
        [0, 1, 1, 1, 1, 1, 1] ∧
      (run steps.reverse).renderCounters = (run steps).renderCounters := by
  intro steps
  have hfew : (observations steps).length < 2 ^ 64 := by decide
  obtain ⟨hcounters, hhistogram, -, horder⟩ := adds_up_in_any_order steps hfew
  refine ⟨hfew, (hcounters _ _).trans ?_, (hhistogram _).2.trans ?_, (horder _ ?_).2⟩
  · decide
  · decide
  · exact List.reverse_perm steps

end ChannelGossip.Metrics
