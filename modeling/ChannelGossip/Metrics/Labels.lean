/-! # Labels

A series of a metric is told from the others by its labels, which are pairs of a name and a value.
Their order does not matter: labels are sorted before they are looked up or written. -/

namespace ChannelGossip

/-- Pairs of a label's name and value. -/
abbrev Labels := List (String × String)

namespace Labels

/-- The order that labels are sorted in: by name, then by value. -/
def precedes (a b : String × String) : Bool := a.1 < b.1 || (a.1 == b.1 && a.2 ≤ b.2)

/-- The labels in order. -/
def sorted (labels : Labels) : Labels := labels.mergeSort precedes

/-- How a character of a label's value is written. -/
def escape (c : Char) : List Char :=
  if c = '\\' then ['\\', '\\']
  else if c = '"' then ['\\', '"']
  else if c = '\n' then ['\\', 'n']
  else [c]

/-- One label in text. -/
def renderOne (label : String × String) : String :=
  label.1 ++ "=\"" ++ String.ofList (label.2.toList.flatMap escape) ++ "\""

/-- Labels in text, separated by commas. -/
def render (labels : Labels) : String := ",".intercalate (labels.map renderOne)

end Labels

end ChannelGossip
