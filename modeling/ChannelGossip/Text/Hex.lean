import ChannelGossip.Bytes
import ChannelGossip.Text.Quoted

/-! # Hexadecimal text

Bytes are written as two lower-case digits each and read in either case.  Reading looks at the
UTF-8 bytes of the text, so that positions and lengths count bytes; a byte that is no digit is
reported as the character of that number. -/

namespace ChannelGossip.Text.Hex

/-- Why a text is not the hexadecimal form of the bytes asked for. -/
inductive Fault where
  /-- The number of digits is odd. -/
  | oddDigits
  /-- The digits stand for another number of bytes than required. -/
  | wrongLength
  /-- The byte at `position` is no hexadecimal digit. -/
  | badDigit (byte : UInt8) (position : Nat)
deriving Repr, DecidableEq

/-- The wording of a fault. -/
def Fault.message : Fault → String
  | .oddDigits => "Odd number of digits"
  | .wrongLength => "Invalid string length"
  | .badDigit byte position =>
    s!"Invalid character {Quoted.char (Char.ofNat byte.toNat)} at position {position}"

/-- The two digits of a byte. -/
def digits (b : UInt8) : List Char :=
  [Nat.digitChar (b.toNat / 16), Nat.digitChar (b.toNat % 16)]

/-- The hexadecimal form of a byte string, in lower case. -/
def encode (bs : Bytes) : String := String.ofList (bs.flatMap digits)

/-- The value of an ASCII digit `0`–`9`, `a`–`f` or `A`–`F`. -/
def digitValue? (b : UInt8) : Option Nat :=
  -- The codes of the digits, the small letters and the capital letters.
  let n := b.toNat
  if 48 ≤ n ∧ n ≤ 57 then some (n - 48)
  else if 97 ≤ n ∧ n ≤ 102 then some (n - 87)
  else if 65 ≤ n ∧ n ≤ 70 then some (n - 55)
  else none

/-- Joins digit values two by two, high digit first, onto the reversed bytes read so far. -/
def joinPairs (read : Bytes) : List Nat → Bytes
  | high :: low :: rest => joinPairs (UInt8.ofNat (16 * high + low) :: read) rest
  | _ => read.reverse

/-- The bytes that an even number of digits stands for, or the first byte that is no digit. -/
def decodeDigits (text : Bytes) : Except Fault Bytes :=
  match text.findIdx? fun b => (digitValue? b).isNone with
  | some i => .error (.badDigit (text.getD i 0) i)
  | none => .ok (joinPairs [] (text.filterMap digitValue?))

/-- The bytes that a text stands for. -/
def decode (text : String) : Except Fault Bytes :=
  let bytes := text.toUTF8.toList
  if bytes.length % 2 = 1 then .error .oddDigits else decodeDigits bytes

/-- The bytes that a text stands for, when they must be exactly `width` many. -/
def decodeExactly (width : Nat) (text : String) : Except Fault Bytes :=
  let bytes := text.toUTF8.toList
  if bytes.length % 2 = 1 then .error .oddDigits
  else if bytes.length / 2 ≠ width then .error .wrongLength
  else decodeDigits bytes

end ChannelGossip.Text.Hex
