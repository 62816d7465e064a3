import ChannelGossip.Metrics.Counter
import ChannelGossip.Metrics.Histogram

/-! # Metrics of a node

What a node counts: frames in and out, bytes, errors and ignored messages, and how long messages
take to handle.  Everything is written as lines of text, counters first. -/

namespace ChannelGossip

/-- The counters of a node. -/
inductive CounterName where
  /-- Frames that were read, by message name. -/
  | messagesIn
  /-- Messages queued to a peer, by message name. -/
  | messagesOut
  /-- The bytes of the frames that were read, by message name. -/
  | inboundBytes
  /-- Frames that could not be read, by error code. -/
  | decodeErrors
  /-- Messages that could not be handled, by error code. -/
  | serviceErrors
  /-- Messages that nobody handles, by message name. -/
  | ignored
deriving Repr, DecidableEq

namespace CounterName

/-- All counters in the order in which they are written. -/
def all : List CounterName :=
  [messagesIn, messagesOut, inboundBytes, decodeErrors, serviceErrors, ignored]

/-- The name of a counter's series. -/
def series : CounterName → String
  | messagesIn => "gossipwire_messages_in_total"
  | messagesOut => "gossipwire_messages_out_total"
  | inboundBytes => "gossipwire_inbound_bytes_total"
  | decodeErrors => "gossipwire_decode_errors_total"
  | serviceErrors => "gossipwire_service_errors_total"
  | ignored => "gossipwire_ignored_total"

end CounterName

/-- The counters of a node and the histogram of its handling times. -/
structure Metrics where
  messagesIn : Counter := .empty
  messagesOut : Counter := .empty
  inboundBytes : Counter := .empty
  decodeErrors : Counter := .empty
  serviceErrors : Counter := .empty
  ignored : Counter := .empty
  durations : Histogram := .empty

namespace Metrics

/-- The metrics of a node that has done nothing. -/
def empty : Metrics := {}

/-- The counter of a given name. -/
def counter (m : Metrics) : CounterName → Counter
  | .messagesIn => m.messagesIn
  | .messagesOut => m.messagesOut
  | .inboundBytes => m.inboundBytes
  | .decodeErrors => m.decodeErrors
  | .serviceErrors => m.serviceErrors
  | .ignored => m.ignored

/-- Adds an amount to a counter. -/
def add (m : Metrics) (name : CounterName) (labels : Labels) (amount : UInt64) : Metrics :=
  match name with
  | .messagesIn => { m with messagesIn := m.messagesIn.add labels amount }
  | .messagesOut => { m with messagesOut := m.messagesOut.add labels amount }
  | .inboundBytes => { m with inboundBytes := m.inboundBytes.add labels amount }
  | .decodeErrors => { m with decodeErrors := m.decodeErrors.add labels amount }
  | .serviceErrors => { m with serviceErrors := m.serviceErrors.add labels amount }
  | .ignored => { m with ignored := m.ignored.add labels amount }

/-- Adding to one counter leaves the others alone. -/
theorem counter_add (m : Metrics) (name other : CounterName) (labels : Labels) (amount : UInt64) :
    (m.add name labels amount).counter other =
      if other = name then (m.counter name).add labels amount else m.counter other := by
  cases name <;> cases other <;> rfl

/-- Counts one. -/
def increment (m : Metrics) (name : CounterName) (labels : Labels) : Metrics :=
  m.add name labels 1

/-- Observes how long a message took to handle. -/
def observe (m : Metrics) (labels : Labels) (nanos : Nat) : Metrics :=
  { m with durations := m.durations.observe labels nanos }

/-- The lines of the counters. -/
def renderCounters (m : Metrics) : List String :=
  CounterName.all.flatMap fun name => (m.counter name).render name.series

/-- All lines. -/
def render (m : Metrics) : List String :=
  m.renderCounters ++ m.durations.render "gossipwire_dispatch_duration_micros"

end Metrics

end ChannelGossip
