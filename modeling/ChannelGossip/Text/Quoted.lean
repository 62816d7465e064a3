import ChannelGossip.Text.Combining
import ChannelGossip.Text.Unprintable

/-! # Quoted text

Text between quote marks, for messages that people read.  The mark that delimits and the
backslash are escaped, a few control characters have short names, and a character that cannot be
shown as itself is written by number, as in `\u{301}`. -/

namespace ChannelGossip.Text.Quoted

/-- The code point of `c` in lower-case hexadecimal between braces. -/
def byNumber (c : Char) : String :=
  "\\u\x7b" ++ String.ofList (Nat.toDigits 16 c.toNat) ++ "\x7d"

/-- How `c` is written between two marks `mark`. -/
def escape (mark c : Char) : String :=
  if c = '\t' then "\\t"
  else if c = '\r' then "\\r"
  else if c = '\n' then "\\n"
  else if c = '\x00' then "\\0"
  else if c = '\\' || c = mark then String.ofList ['\\', c]
  else if isCombining c || isUnprintable c then byNumber c
  else c.toString

/-- A character between single quotes. -/
def char (c : Char) : String := "'" ++ escape '\'' c ++ "'"

/-- A string between double quotes. -/
def string (s : String) : String :=
  "\"" ++ String.join (s.toList.map (escape '"')) ++ "\""

end ChannelGossip.Text.Quoted
