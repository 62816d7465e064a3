import ChannelGossip.Proofs.Node.Dispatch
import ChannelGossip.Proofs.Store.Holds

/-! # Runs of a node

Sessions are opened and closed, messages are handled, and readers take what is queued or go away,
in any order.  The store after a run is that of filing the messages that were handled, one after
the other, so that whatever holds of all handled messages holds of everything stored.  Main
statements:

* `Node.run`   a node after a run of events
* `Node.run_store`   the store after a run
* `Node.holds_run`   what the store of a node holds
* `Node.IsReachable`   nodes that have only received frames that they accept -/

namespace ChannelGossip

namespace Node

/-- Something that happens to a node. -/
inductive Event where
  | openSession (peer : String) (capacity : Nat)
  /-- The current session of a peer is forgotten. -/
  | unregister (peer : String)
  /-- A message from a session is handled. -/
  | dispatch (session : Nat) (m : Message)
  /-- The reader of a session takes up to `count` of the messages that are on their way. -/
  | read (session : Nat) (count : Nat)
  /-- The reader of a session goes away. -/
  | hangUp (session : Nat)

/-- The message that is handled when something happens. -/
def Event.message? : Event → Option Message
  | .dispatch _ m => some m
  | _ => none

/-- The node after something has happened to it. -/
def after (n : Node) : Event → Node
  | .openSession peer capacity => n.openSession peer capacity
  | .unregister peer => n.unregister peer
  | .dispatch session m => (n.dispatch n.dispatcher session m).node
  | .read session count =>
    n.updateSession session fun s => { s with outbox := s.outbox.read count }
  | .hangUp session => n.updateSession session fun s => { s with outbox := s.outbox.closed }

/-- The node after a run of events. -/
def run (n : Node) (events : List Event) : Node := events.foldl after n

@[simp] theorem run_nil (n : Node) : n.run [] = n := rfl

@[simp] theorem run_cons (n : Node) (e : Event) (events : List Event) :
    n.run (e :: events) = (n.after e).run events := rfl

/-! ## One event -/

@[simp] theorem after_config (n : Node) (e : Event) : (n.after e).config = n.config := by
  cases e with
  | dispatch session m => exact (n.dispatch_frame session m).2.1
  | _ => rfl

/-- An event files the message that it handles, if any. -/
theorem after_store (n : Node) (e : Event) :
    (n.after e).store = n.store.fileAll n.config.chain e.message?.toList := by
  cases e with
  | dispatch session m => exact (n.dispatch_frame session m).1
  | _ => rfl

/-! ## Many events -/

@[simp] theorem run_config (n : Node) (events : List Event) : (n.run events).config = n.config := by
  induction events generalizing n with
  | nil => rfl
  | cons e events ih => rw [run_cons, ih, after_config]

/-- A run files by `fileAll` the messages that are handled in it. -/
theorem run_store (n : Node) (events : List Event) :
    (n.run events).store = n.store.fileAll n.config.chain (events.filterMap Event.message?) := by
  induction events generalizing n with
  | nil => rfl
  | cons e events ih =>
    rw [run_cons, ih, after_store, after_config]
    -- Only some events handle a message.
    cases hmessage : e.message? with
    | none => rw [List.filterMap_cons_none hmessage, Option.toList_none, Store.fileAll_nil]
    | some m =>
      rw [List.filterMap_cons_some hmessage, Option.toList_some, Store.fileAll_cons,
        Store.fileAll_nil, Store.fileAll_cons]

/-- Everything that a node stores after a run is the filing of a message with the property `P`, if
    all that it has handled have it. -/
theorem holds_run (config : Config) {events : List Event} {P : Message → Prop}
    (h : ∀ e ∈ events, ∀ m ∈ e.message?, P m) :
    ((start config).run events).store.Holds config.chain P := by
  rw [run_store]
  refine Store.Holds.empty.fileAll fun m hm => ?_
  obtain ⟨e, he, hmessage⟩ := List.mem_filterMap.1 hm
  exact h e he m hmessage

/-- What a node stores after a run is built by filing messages, as `IsBuilt` says. -/
theorem isBuilt_run (config : Config) (events : List Event) :
    ((start config).run events).store.IsBuilt := by
  rw [run_store]
  exact Store.IsBuilt.empty.fileAll _ _

/-! ## Reachable nodes -/

/-- A node after any run in which it has handled only messages from frames that it accepts. -/
def IsReachable (n : Node) : Prop :=
  ∃ config events, n = (start config).run events ∧ ∀ e ∈ events, ∀ m ∈ e.message?,
    ∃ frame, (FrameLimits.ofConfig config).accept frame = .ok m

/-- Everything that a node with `IsReachable` stores comes from frames that it accepts. -/
theorem IsReachable.holds {n : Node} (h : n.IsReachable) :
    n.store.Holds n.config.chain fun m => ∃ frame, n.limits.accept frame = .ok m := by
  obtain ⟨config, events, rfl, hevents⟩ := h
  rw [limits, run_config]
  exact holds_run config hevents

end Node

end ChannelGossip
