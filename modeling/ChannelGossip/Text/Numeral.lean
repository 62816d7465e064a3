/-! # Unsigned numerals

Reading of a whole text as an unsigned number in a given base: an optional plus sign, then at
least one digit, and a value below a limit. -/

namespace ChannelGossip.Text.Numeral

/-- The value of a digit in bases up to sixteen, in either case. -/
def digitValue? (base : Nat) (c : Char) : Option Nat :=
  -- The code points of the digits, the small letters and the capital letters.
  let n := c.toNat
  let value :=
    if 48 ≤ n ∧ n ≤ 57 then n - 48
    else if 97 ≤ n ∧ n ≤ 102 then n - 87
    else if 65 ≤ n ∧ n ≤ 70 then n - 55
    else base
  if value < base then some value else none

/-- The number that a non-empty list of digits stands for. -/
def ofDigits? (base : Nat) (cs : List Char) : Option Nat :=
  if cs.isEmpty then none
  else cs.foldlM (fun n c => (digitValue? base c).map (base * n + ·)) 0

/-- The number below `limit` that a text stands for in `base`. -/
def parse? (base limit : Nat) (cs : List Char) : Option Nat :=
  let digits := match cs with
    | '+' :: rest => rest
    | _ => cs
  (ofDigits? base digits).filter (· < limit)

end ChannelGossip.Text.Numeral
