/-! # White space and lines

`trim` takes the characters with the property `White_Space` off both ends of a text, and `lines`
cuts a byte string at each line feed. -/

namespace ChannelGossip.Text

/-- The code points with the property `White_Space`. -/
def whiteSpace : List Nat :=
  [0x09, 0x0A, 0x0B, 0x0C, 0x0D, 0x20, 0x85, 0xA0, 0x1680, 0x2000, 0x2001, 0x2002, 0x2003, 0x2004,
   0x2005, 0x2006, 0x2007, 0x2008, 0x2009, 0x200A, 0x2028, 0x2029, 0x202F, 0x205F, 0x3000]

/-- Whether a character is white space. -/
def isWhiteSpace (c : Char) : Bool := whiteSpace.contains c.toNat

/-- The text without white space at either end. -/
def trim (s : String) : String :=
  let front := s.toList.dropWhile isWhiteSpace
  String.ofList (front.reverse.dropWhile isWhiteSpace).reverse

/-- A line without the carriage return before its line feed. -/
def dropReturn (line : List UInt8) : List UInt8 :=
  if line.getLast? = some 13 then line.dropLast else line

/-- The lines of a byte string without the line feeds that end them; the last line may lack one,
    and is left out if it is empty. -/
def lines (bs : List UInt8) : List (List UInt8) :=
  let pieces := bs.splitOn 10
  pieces.dropLast.map dropReturn ++ pieces.getLast?.toList.filter (!·.isEmpty)

end ChannelGossip.Text
