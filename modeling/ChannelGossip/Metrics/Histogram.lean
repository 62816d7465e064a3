import ChannelGossip.Metrics.Labels
import ChannelGossip.Table

/-! # Histograms

A histogram sorts durations into buckets, for each set of labels apart.  A bucket counts every
duration up to its bound, so the buckets grow from one to the next, and the last one, without a
bound, counts all. -/

namespace ChannelGossip

namespace Histogram

/-- The bounds of the buckets in microseconds. -/
def bounds : List UInt64 := [10, 50, 100, 500, 1000, 10000, 100000]

/-- What was observed for one set of labels: how many durations, their sum in microseconds, and
    how many up to each bound. -/
structure Tally where
  count : UInt64
  sum : UInt64
  buckets : List UInt64
deriving Repr, DecidableEq

/-- The tally of nothing. -/
def Tally.zero : Tally := ⟨0, 0, bounds.map fun _ => 0⟩

/-- The tally with one more duration. -/
def Tally.observe (t : Tally) (micros : UInt64) : Tally where
  count := t.count + 1
  sum := t.sum + micros
  buckets := bounds.zipWith (fun bound n => if micros ≤ bound then n + 1 else n) t.buckets

/-- The whole microseconds in a duration, up to the largest number of 64 bits. -/
def microseconds (nanos : Nat) : UInt64 := .ofNat (min (nanos / 1000) (UInt64.size - 1))

/-- The lines of one tally. -/
def Tally.render (t : Tally) (name labels : String) : List String :=
  let front := if labels.isEmpty then "" else labels ++ ","
  let bucket (bound : String) (n : UInt64) : String :=
    name ++ "_bucket\x7b" ++ front ++ "le=\"" ++ bound ++ "\"\x7d " ++ toString n.toNat
  bounds.zipWith (fun bound n => bucket (toString bound.toNat) n) t.buckets
    ++ [bucket "+Inf" t.count,
        name ++ "_sum\x7b" ++ labels ++ "\x7d " ++ toString t.sum.toNat,
        name ++ "_count\x7b" ++ labels ++ "\x7d " ++ toString t.count.toNat]

end Histogram

/-- A tally for each set of labels that was observed. -/
structure Histogram where
  tallies : Table Labels Histogram.Tally

namespace Histogram

/-- The histogram that has observed nothing. -/
def empty : Histogram := ⟨.empty⟩

/-- What was observed for a set of labels. -/
def get (h : Histogram) (labels : Labels) : Tally := (h.tallies.find? labels.sorted).getD .zero

/-- How many durations were observed for a set of labels. -/
def count (h : Histogram) (labels : Labels) : UInt64 := (h.get labels).count

/-- Observes a duration for a set of labels. -/
def observe (h : Histogram) (labels : Labels) (nanos : Nat) : Histogram :=
  ⟨h.tallies.insert labels.sorted ((h.get labels).observe (microseconds nanos))⟩

/-- The order of groups of lines: that of the first lines in which they differ. -/
def precedes : List String → List String → Bool
  | a :: as, b :: bs => a < b || (a == b && precedes as bs)
  | [], _ => true
  | _ :: _, [] => false

/-- The lines of a histogram: its type, then those of each tally, in the order of their text. -/
def render (h : Histogram) (name : String) : List String :=
  let groups := h.tallies.entries.map fun (labels, t) => t.render name labels.render
  s!"# TYPE {name} histogram" :: (groups.mergeSort precedes).flatten

end Histogram

end ChannelGossip
