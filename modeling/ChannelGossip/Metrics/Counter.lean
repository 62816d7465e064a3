import ChannelGossip.Metrics.Labels
import ChannelGossip.Table

/-! # Counters

A counter has a number of its own for each set of labels.  The numbers have 64 bits and start
again from zero. -/

namespace ChannelGossip

/-- A number for each set of labels that was counted. -/
structure Counter where
  cells : Table Labels UInt64

namespace Counter

/-- The counter that has counted nothing. -/
def empty : Counter := ⟨.empty⟩

/-- The number for a set of labels. -/
def get (c : Counter) (labels : Labels) : UInt64 := (c.cells.find? labels.sorted).getD 0

/-- Adds an amount for a set of labels. -/
def add (c : Counter) (labels : Labels) (amount : UInt64) : Counter :=
  ⟨c.cells.insert labels.sorted (c.get labels + amount)⟩

/-- Counts one for a set of labels. -/
def increment (c : Counter) (labels : Labels) : Counter := c.add labels 1

/-- The order of lines: by the text of the labels, then by number. -/
def rowPrecedes (a b : String × UInt64) : Bool := a.1 < b.1 || (a.1 == b.1 && a.2 ≤ b.2)

/-- The lines of a counter: its type, then each set of labels with its number. -/
def render (c : Counter) (name : String) : List String :=
  let rows := c.cells.entries.map fun (labels, n) => (labels.render, n)
  let lines := (rows.mergeSort rowPrecedes).map fun (labels, n) =>
    name ++ "\x7b" ++ labels ++ "\x7d " ++ toString n.toNat
  s!"# TYPE {name} counter" :: lines

end Counter

end ChannelGossip
