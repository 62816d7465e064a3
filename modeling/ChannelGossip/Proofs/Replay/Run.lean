import Mathlib.Data.List.Induction
import Mathlib.Data.List.ReduceOption
import ChannelGossip.Proofs.Node.Log
import ChannelGossip.Proofs.Replay.Advance

/-! # Whole replays

A replay of a text is an advance by each of its frames that are played, so that what one frame
preserves holds at the end.  Main statements:

* `Replay.run_induct`   induction on the frames that are played
* `Replay.Plays`, `Replay.plays_run`   what a replay has come to -/

namespace ChannelGossip.Replay

variable {r : Replay} {n : Node} {peer text : String} {frames : List String} {nanos : Nat → Nat}

/-! ## Induction on the frames -/

/-- A replay that has ended stays as it is by `play`. -/
theorem foldl_play_of_disconnected (h : r.state = .disconnected) (items : List (Bytes × Nat)) :
    items.foldl (fun r item => r.play (nanos item.2) item.1) r = r := by
  induction items with
  | nil => rfl
  | cons item items ih => rw [List.foldl_cons, play_of_disconnected h, ih]

/-- A replay goes on after a frame that is none of `EndsReplay`. -/
theorem IsReading.advance (h : r.IsReading) (hends : ¬EndsReplay r.node.limits text)
    (nanos : Nat) : (r.advance text nanos).IsReading := by
  obtain ⟨ms, hms⟩ := h.hasSession
  refine ⟨?_, _, hms.record _ nanos⟩
  rw [← hms.ends_outcome_iff] at hends
  show (if (r.outcome text).ends then _ else r.state) = _
  rw [if_neg hends, h.state_eq]

/-- The node accepts the same frames after `advance`. -/
@[simp] theorem limits_advance (r : Replay) (text : String) (nanos : Nat) :
    (r.advance text nanos).node.limits = r.node.limits :=
  congrArg FrameLimits.ofConfig (r.node.run_config _)

/-- A replay goes on after it has begun. -/
theorem IsReading.start (n : Node) (peer : String) : (start n peer).IsReading :=
  ⟨rfl, [], .start n peer⟩

/-- Playing lines is `advance` by each of the frames in them that are played. -/
theorem IsReading.exists_foldl_play_eq (h : r.IsReading) (nanos : Nat → Nat)
    {items : List (Bytes × Nat)} {found : List (Option String)}
    (hfound : items.map (fun item => frame? item.1) = found.map .ok) :
    ∃ timed : List (String × Nat),
      timed.map Prod.fst = cutAfter (EndsReplay r.node.limits) found.reduceOption ∧
        items.foldl (fun r item => r.play (nanos item.2) item.1) r =
          timed.foldl (fun r frame => r.advance frame.1 frame.2) r := by
  -- Line by line, as long as the replay goes on; the first frame that ends it is the last one
  -- played.
  induction items generalizing r found with
  | nil =>
    obtain rfl : found = [] := by simpa using hfound
    exact ⟨[], rfl, rfl⟩
  | cons item items ih =>
    obtain ⟨frame, found, rfl⟩ : ∃ frame found', found = frame :: found' := by
      cases found with
      | nil => cases hfound
      | cons frame found => exact ⟨frame, found, rfl⟩
    simp only [List.map_cons, List.cons.injEq] at hfound
    obtain ⟨hframe, hfound⟩ := hfound
    rw [List.foldl_cons]
    cases frame with
    | none =>
      rw [h.play_of_none hframe, List.reduceOption_cons_of_none]
      exact ih h hfound
    | some text =>
      rw [h.play_eq_advance hframe, List.reduceOption_cons_of_some, cutAfter]
      by_cases hends : EndsReplay r.node.limits text
      · have hended : (r.advance text (nanos item.2)).state = .disconnected := by
          obtain ⟨ms, hms⟩ := h.hasSession
          exact if_pos ((hms.ends_outcome_iff text).2 hends)
        rw [if_pos hends, foldl_play_of_disconnected hended]
        exact ⟨[(text, nanos item.2)], rfl, rfl⟩
      · rw [if_neg hends]
        obtain ⟨timed, htimed, hfoldl⟩ := ih (h.advance hends (nanos item.2)) hfound
        refine ⟨(text, nanos item.2) :: timed, ?_, hfoldl⟩
        rw [List.map_cons, htimed, limits_advance]

/-- What holds of a replay that has begun, and is preserved by `advance`, holds of the replay of a
    text and the frames that are played of it. -/
theorem run_induct {motive : List String → Replay → Prop} (n : Node) (peer : String)
    (nanos : Nat → Nat) {input : Bytes} (hinput : Text.Utf8.decode input = .ok text)
    (start : motive [] (start n peer))
    (advance : ∀ frames r text nanos, motive frames r →
      motive (frames ++ [text]) (r.advance text nanos)) :
    motive (cutFrames n.limits text) (run n peer nanos input) := by
  obtain ⟨found, hfound, hframes⟩ := exists_frames_lines hinput
  have hitems : (Text.lines input).zipIdx.map (fun item => frame? item.1) = found.map .ok := by
    rw [← hfound, ← List.zipIdx_map_fst 0 (Text.lines input), List.map_map]
    simp
  obtain ⟨timed, htimed, hfoldl⟩ :=
    (IsReading.start n peer).exists_foldl_play_eq nanos hitems
  rw [hframes] at htimed
  have hrun : run n peer nanos input =
      timed.foldl (fun r frame => r.advance frame.1 frame.2) (Replay.start n peer) := hfoldl
  have hlimits : (Replay.start n peer).node.limits = n.limits := rfl
  rw [cutFrames, ← hlimits, ← htimed, hrun]
  clear htimed hfoldl hrun
  -- The replay is made of the frames from the front, so the last one comes last.
  induction timed using List.reverseRecOn with
  | nil => exact start
  | append_singleton timed frame ih =>
    rw [List.map_append, List.map_singleton, List.foldl_concat]
    exact advance _ _ frame.1 frame.2 ih

/-! ## What a replay has come to -/

/-- What happens to a node in a replay: the session of the replay is opened, and the messages in
    `frames` are handled. -/
def eventsOf (n : Node) (peer : String) (frames : List String) : List Node.Event :=
  .openSession peer Session.defaultCapacity ::
    (decoded n.limits frames).map fun frame => .dispatch n.nextSession frame.1

/-- A replay that has played `frames` to the node `n`. -/
structure Plays (n : Node) (peer : String) (frames : List String) (r : Replay) : Prop where
  peer_eq : r.peer = peer
  session_eq : r.session = n.nextSession
  /-- The replay has not been broken off. -/
  state_ne : ∀ e, r.state ≠ .broken e
  /-- Nothing but the counting tells its node from one in which the messages were handled. -/
  exists_node_eq : ∃ t, r.node = (n.run (eventsOf n peer frames)).withMetrics t
  hasSession :
    r.HasSession (messagesTo n.nextSession (n.queuedIn (eventsOf n peer frames)))
  failed_iff : r.stats.failed = true ↔ ∃ frame ∈ frames, EndsReplay n.limits frame

/-- What a replay has to tell if it ends where it is. -/
def reportSoFar (r : Replay) : Report := ⟨{ r.stats with replies := r.output.length }, r.output⟩

/-- `report` is `reportSoFar` unless the replay has been broken off. -/
theorem report_eq_ok (h : ∀ e, r.state ≠ .broken e) : r.report = .ok r.reportSoFar := by
  unfold report
  split
  · rename_i e he
    exact absurd he (h e)
  · rfl

namespace Plays

/-- A replay that has begun has played nothing. -/
theorem start (n : Node) (peer : String) : Plays n peer [] (start n peer) where
  peer_eq := rfl
  session_eq := rfl
  state_ne := by
    intro e h
    have hstate : (Replay.start n peer).state = .reading := rfl
    cases hstate.symm.trans h
  exists_node_eq := ⟨n.metrics, rfl⟩
  hasSession := by
    have hnothing : n.queuedIn (eventsOf n peer []) = [] := rfl
    rw [hnothing]
    exact .start n peer
  failed_iff := by simp [Replay.start]

/-- The node accepts the frames that it accepted before the replay. -/
theorem limits_eq (h : Plays n peer frames r) : r.node.limits = n.limits := by
  obtain ⟨t, ht⟩ := h.exists_node_eq
  rw [ht]
  exact congrArg FrameLimits.ofConfig (n.run_config _)

/-- `eventsOf` one more frame comes after everything else. -/
theorem eventsOf_concat (h : Plays n peer frames r) (text : String) :
    eventsOf n peer (frames ++ [text]) = eventsOf n peer frames ++ r.events (r.outcome text) := by
  -- The limits and the session are those from the beginning.
  simp only [eventsOf, decoded_append, List.map_append, List.cons_append, events,
    decoded_outcome, h.limits_eq, h.session_eq]

/-- `advance` plays one more frame. -/
theorem advance (h : Plays n peer frames r) (text : String) (nanos : Nat) :
    Plays n peer (frames ++ [text]) (r.advance text nanos) where
  peer_eq := h.peer_eq
  session_eq := h.session_eq
  state_ne := by
    intro e
    show (if (r.outcome text).ends then _ else r.state) ≠ _
    split
    · exact nofun
    · exact h.state_ne e
  exists_node_eq := by
    obtain ⟨t, ht⟩ := h.exists_node_eq
    rw [h.eventsOf_concat, Node.run_append]
    show ∃ t', (r.node.run (r.events (r.outcome text))).withMetrics _ = _
    rw [ht, Node.run_withMetrics]
    exact ⟨_, rfl⟩
  hasSession := by
    obtain ⟨t, ht⟩ := h.exists_node_eq
    have hrecord := h.hasSession.record (r.outcome text) nanos
    have hqueued : r.node.queuedIn (r.events (r.outcome text)) =
        (n.run (eventsOf n peer frames)).queuedIn (r.events (r.outcome text)) := by
      rw [ht, Node.queuedIn_withMetrics]
    rw [hqueued, h.session_eq] at hrecord
    rw [h.eventsOf_concat, Node.queuedIn_append, messagesTo_append]
    exact hrecord
  failed_iff := by
    show (r.stats.record (r.outcome text)).failed = true ↔ _
    rw [ReplayStats.failed_record, Bool.or_eq_true, h.hasSession.ends_outcome_iff, h.failed_iff,
      h.limits_eq]
    simp [or_comm, or_and_right, exists_or]

/-- The peer of a replay has no current session after `finish`. -/
theorem find?_finish (h : Plays n peer frames r) : r.finish.registry.find? peer = none := by
  have hfinish : r.finish.registry = r.node.registry.erase r.peer := rfl
  rw [hfinish, h.peer_eq, Table.find?_erase, if_pos rfl]

end Plays

/-- A replay of a text plays `cutFrames`, those up to the first one that ends it. -/
theorem plays_run (n : Node) (peer : String) (nanos : Nat → Nat) {input : Bytes}
    (hinput : Text.Utf8.decode input = .ok text) :
    Plays n peer (cutFrames n.limits text) (run n peer nanos input) :=
  run_induct n peer nanos hinput (.start n peer) fun _ _ text nanos h => h.advance text nanos

end ChannelGossip.Replay
