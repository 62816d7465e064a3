import ChannelGossip.Proofs.Replay.Run

/-! # What determines a replay

The frames that are played determine all that a replay does and counts, and the case of their
letters makes no difference.  How long the handling of messages takes shows in the histogram of
durations only, so that replays are compared without it.  Main statements:

* `Replay.untimed`   a replay without the durations
* `Replay.advanceUntimed_untimed`   what a frame does to a replay without them
* `Replay.determined_by_frames`   two replays of the same frames -/

namespace ChannelGossip

namespace Metrics

variable {t : Metrics}

/-- Metrics without the durations. -/
def untimed (t : Metrics) : Metrics := { t with durations := .empty }

@[simp] theorem counter_untimed (t : Metrics) (name : CounterName) :
    t.untimed.counter name = t.counter name := by
  cases name <;> rfl

@[simp] theorem untimed_untimed (t : Metrics) : t.untimed.untimed = t.untimed := rfl

@[simp] theorem untimed_observe (t : Metrics) (labels : Labels) (nanos : Nat) :
    (t.observe labels nanos).untimed = t.untimed := rfl

theorem untimed_add (t : Metrics) (name : CounterName) (labels : Labels) (amount : UInt64) :
    (t.add name labels amount).untimed = t.untimed.add name labels amount := by
  cases name <;> rfl

theorem untimed_countSent (t : Metrics) (ms : List Message) :
    (t.countSent ms).untimed = t.untimed.countSent ms := by
  induction ms generalizing t with
  | nil => rfl
  | cons m ms ih =>
    have hhead : (t.increment .messagesOut [("type", m.name)]).untimed =
        t.untimed.increment .messagesOut [("type", m.name)] := untimed_add _ _ _ _
    exact (ih _).trans (congrArg (countSent · ms) hhead)

/-- What is counted of a frame by `record` depends neither on the time that its message takes nor on
    earlier durations. -/
theorem untimed_record (t : Metrics) (o : Replay.Outcome) (sent : List Message)
    (nanos nanos' : Nat) :
    (t.untimed.record o sent nanos').untimed = (t.record o sent nanos).untimed := by
  rcases o with code | ⟨m, length, e | _ | _⟩ <;>
    simp [record, settle, arrive, increment, untimed_add, untimed_countSent]

end Metrics

namespace Replay

variable {r : Replay} {n : Node} {peer text : String}

/-- A replay without the durations. -/
def untimed (r : Replay) : Replay :=
  { r with node := r.node.withMetrics r.node.metrics.untimed }

/-- Replays that are the same by `untimed` report the same, and leave nodes that store the same,
    have the same current sessions and have counted the same. -/
theorem finish_of_untimed_eq {r r' : Replay} (h : r.untimed = r'.untimed) :
    r.reportSoFar = r'.reportSoFar ∧ r.finish.store = r'.finish.store ∧
      r.finish.registry = r'.finish.registry ∧
      ∀ name, r.finish.metrics.counter name = r'.finish.metrics.counter name := by
  have hreport : r.untimed.reportSoFar = r'.untimed.reportSoFar := by rw [h]
  have hstore : r.untimed.finish.store = r'.untimed.finish.store := by rw [h]
  have hregistry : r.untimed.finish.registry = r'.untimed.finish.registry := by rw [h]
  have hmetrics : r.untimed.finish.metrics = r'.untimed.finish.metrics := by rw [h]
  refine ⟨hreport, hstore, hregistry, fun name => ?_⟩
  rw [← Metrics.counter_untimed, ← Metrics.counter_untimed r'.finish.metrics]
  exact congrArg (Metrics.counter · name) hmetrics

/-- `outcome` does not depend on the case of letters. -/
theorem outcome_toLower (r : Replay) (text : String) :
    r.outcome text.toLower = r.outcome text := by
  have h := read_toLower r.node.limits text
  unfold outcome
  generalize read r.node.limits text.toLower = lower at h ⊢
  generalize read r.node.limits text = same at h ⊢
  -- Either both frames are read, and hold the same message, or both fail under one code.
  cases lower with
  | error e =>
    cases same with
    | error e' => exact congrArg Outcome.unread (Except.error.inj h)
    | ok read => cases h
  | ok read =>
    cases same with
    | error e' => cases h
    | ok read' =>
      obtain rfl := Except.ok.inj h
      rfl

/-- `outcome` does not depend on durations. -/
theorem outcome_untimed (r : Replay) (text : String) : r.untimed.outcome text = r.outcome text := by
  have hhandle : ∀ m, r.untimed.handle m = (r.handle m).withMetrics r.node.metrics.untimed :=
    r.handle_withMetrics r.node.metrics.untimed r.stats
  have hlimits : r.untimed.node.limits = r.node.limits := rfl
  unfold outcome
  rw [hlimits]
  simp only [hhandle, Step.withMetrics]

/-- Nor does what `record` does to the rest of a replay. -/
theorem untimed_record (r : Replay) (o : Outcome) (nanos nanos' : Nat) :
    (r.untimed.record o nanos').untimed = (r.record o nanos).untimed := by
  have hsent : r.untimed.sent o = r.sent o :=
    congrArg (List.map Queued.message) (r.node.queuedIn_withMetrics r.node.metrics.untimed _)
  have hrun := r.node.run_withMetrics r.node.metrics.untimed (r.events o)
  have hmetrics := r.node.metrics.untimed_record o (r.sent o) nanos nanos'
  have hevents : r.untimed.events o = r.events o := rfl
  have hnode : r.untimed.node = r.node.withMetrics r.node.metrics.untimed := rfl
  -- Only the metrics depend on the durations.
  let rest (t : Metrics) : Replay :=
    { r with
      node := (r.node.run (r.events o)).withMetrics t
      stats := r.stats.record o
      state := if o.ends then .disconnected else r.state }
  have hrest : rest _ = rest _ := congrArg rest hmetrics
  simp only [record, hsent, hevents, hnode]
  rw [hrun]
  exact hrest

/-- A replay after a frame, without the durations. -/
def advanceUntimed (r : Replay) (text : String) : Replay := (r.advance text 0).untimed

/-- A replay without the durations is advanced by a frame in small letters as by the frame. -/
theorem advanceUntimed_untimed (r : Replay) (text : String) (nanos : Nat) :
    r.untimed.advanceUntimed text.toLower = (r.advance text nanos).untimed := by
  rw [advanceUntimed, advance, outcome_toLower, outcome_untimed, untimed_record r _ nanos, advance]

/-- Without the durations a replay comes to the same for all texts of the same frames. -/
theorem untimed_run (n : Node) (peer : String) (nanos : Nat → Nat) {input : Bytes}
    (hinput : Text.Utf8.decode input = .ok text) :
    (run n peer nanos input).untimed =
      ((cutFrames n.limits text).map String.toLower).foldl advanceUntimed
        (start n peer).untimed := by
  -- The invariant: without durations, the replay is that of the frames so far in small letters.
  refine run_induct (motive := fun frames r => r.untimed =
    (frames.map String.toLower).foldl advanceUntimed (Replay.start n peer).untimed)
    n peer nanos hinput rfl fun frames r text nanos h => ?_
  rw [List.map_append, List.foldl_append, ← h]
  exact (r.advanceUntimed_untimed text nanos).symm

/-- By `hframes` two texts have the same frames up to the first one that ends the replay, but for
    the case of their letters.  Then the replays report the same, and leave nodes that store the
    same, have the same current sessions and have counted the same.  The report tells whether a
    frame ended the replay, and puts out the messages that were queued to the session of the replay,
    which is not current any more. -/
theorem determined_by_frames (n : Node) (peer : String) (nanos nanos' : Nat → Nat)
    {input input' : Bytes} {text text' : String} (hinput : Text.Utf8.decode input = .ok text)
    (hinput' : Text.Utf8.decode input' = .ok text')
    (hframes : (cutFrames n.limits text).map String.toLower =
      (cutFrames n.limits text').map String.toLower) :
    let r := run n peer nanos input
    let r' := run n peer nanos' input'
    ∃ report, r.report = .ok report ∧ r'.report = .ok report ∧
      r.finish.store = r'.finish.store ∧ r.finish.registry = r'.finish.registry ∧
      (∀ name, r.finish.metrics.counter name = r'.finish.metrics.counter name) ∧
      (report.stats.failed = true ↔ ∃ frame ∈ frameTexts text, EndsReplay n.limits frame) ∧
      report.output =
        (messagesTo n.nextSession (n.queuedIn (eventsOf n peer (cutFrames n.limits text)))).map
          (fun m => Text.Hex.encode m.encode) ∧
      r.finish.registry.find? peer = none := by
  intro r r'
  have hplays : Plays n peer (cutFrames n.limits text) r := plays_run n peer nanos hinput
  have hplays' : Plays n peer (cutFrames n.limits text') r' := plays_run n peer nanos' hinput'
  -- The two are one replay but for the durations.
  have hsame : r.untimed = r'.untimed := by
    rw [untimed_run n peer nanos hinput, untimed_run n peer nanos' hinput', hframes]
  obtain ⟨hreport, hstore, hregistry, hcounter⟩ := finish_of_untimed_eq hsame
  have hreport' : r'.report = .ok r.reportSoFar := by
    rw [hreport, report_eq_ok hplays'.state_ne]
  exact ⟨r.reportSoFar, report_eq_ok hplays.state_ne, hreport', hstore, hregistry, hcounter,
    hplays.failed_iff.trans exists_mem_cutAfter_iff, hplays.hasSession.output_eq,
    hplays.find?_finish⟩

/-- A frame in capital letters that ends the replay, and the same frame in small letters, with white
    space before it and another line after it. -/
theorem determined_by_frame_in_capitals :
    let n := Node.start (.ofChain .bitcoin)
    let r := run n "peer" (fun _ => 1) [48, 48, 70, 69, 13, 10, 35, 10]
    let r' := run n "peer" (fun _ => 0) [32, 48, 48, 102, 101, 10, 122, 122]
    ∃ report, r.report = .ok report ∧ r'.report = .ok report ∧ report.stats.failed = true := by
  intro n r r'
  have hinput : Text.Utf8.decode [48, 48, 70, 69, 13, 10, 35, 10] = .ok "00FE\r\n#\n" := by
    decide +kernel
  have hinput' : Text.Utf8.decode [32, 48, 48, 102, 101, 10, 122, 122] = .ok " 00fe\nzz" := by
    decide +kernel
  have hcut : cutFrames n.limits "00FE\r\n#\n" = ["00FE"] := by decide +kernel
  have hcut' : cutFrames n.limits " 00fe\nzz" = ["00fe"] := by decide +kernel
  have hframes : (cutFrames n.limits "00FE\r\n#\n").map String.toLower =
      (cutFrames n.limits " 00fe\nzz").map String.toLower := by
    have hlower : "00FE".toLower = "00fe".toLower :=
      String.toList_inj.1 (String.toList_map.trans (.trans (by decide) String.toList_map.symm))
    rw [hcut, hcut', List.map_singleton, List.map_singleton, hlower]
  obtain ⟨report, hreport, hreport', -, -, -, hfailed, -⟩ :=
    determined_by_frames n "peer" (fun _ => 1) (fun _ => 0) hinput hinput' hframes
  exact ⟨report, hreport, hreport', hfailed.2 ⟨"00FE", by decide +kernel, by decide +kernel⟩⟩

end Replay

end ChannelGossip
