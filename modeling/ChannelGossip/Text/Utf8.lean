import ChannelGossip.Bytes

/-! # UTF-8

Two readings of a byte string as text: `decode` refuses anything that is not well-formed UTF-8
and says where it goes wrong, `decodeLossy` puts one U+FFFD for each ill-formed piece.  A piece is
a longest run that could still begin a character, or else a single byte. -/

namespace ChannelGossip.Text.Utf8

/-- Where a byte string stops being well-formed UTF-8.  `width` is the length of the ill-formed
    piece, or `none` if the string merely ends inside a character. -/
structure Fault where
  position : Nat
  width : Option Nat
deriving Repr, DecidableEq

/-- The wording of a fault. -/
def Fault.message : Fault → String
  | ⟨position, some width⟩ => s!"invalid utf-8 sequence of {width} bytes from index {position}"
  | ⟨position, none⟩ => s!"incomplete utf-8 byte sequence from index {position}"

/-- An inclusive range of byte values. -/
structure ByteRange where
  lo : Nat
  hi : Nat

/-- Whether a byte lies in a range. -/
def ByteRange.contains (r : ByteRange) (b : UInt8) : Bool :=
  r.lo ≤ b.toNat && b.toNat ≤ r.hi

/-- A continuation byte. -/
def tail : ByteRange := ⟨0x80, 0xBF⟩

/-- The bytes that must follow a first byte, or `none` if no character starts with it. -/
def following? (first : UInt8) : Option (List ByteRange) :=
  let n := first.toNat
  -- The narrow ranges after E0 and F0 leave out longer spellings than needed, that after ED the
  -- surrogates, and that after F4 what lies beyond the last code point.
  if n ≤ 0x7F then some []
  else if 0xC2 ≤ n ∧ n ≤ 0xDF then some [tail]
  else if n = 0xE0 then some [⟨0xA0, 0xBF⟩, tail]
  else if n = 0xED then some [⟨0x80, 0x9F⟩, tail]
  else if 0xE1 ≤ n ∧ n ≤ 0xEF then some [tail, tail]
  else if n = 0xF0 then some [⟨0x90, 0xBF⟩, tail, tail]
  else if 0xF1 ≤ n ∧ n ≤ 0xF3 then some [tail, tail, tail]
  else if n = 0xF4 then some [⟨0x80, 0x8F⟩, tail, tail]
  else none

/-- How many of the leading bytes lie in the ranges, taken in step. -/
def countMatching : List ByteRange → Bytes → Nat
  | r :: ranges, b :: bs => if r.contains b then countMatching ranges bs + 1 else 0
  | _, _ => 0

/-- What a non-empty byte string starts with. -/
inductive Front where
  /-- A character in `width` bytes. -/
  | char (c : Char) (width : Nat)
  /-- An ill-formed piece of `width` bytes, followed by a byte that does not fit. -/
  | illFormed (width : Nat)
  /-- A proper beginning of a character, and nothing after it. -/
  | cutOff

/-- The payload bits of a character's bytes: those of the first byte, then six of each other. -/
def codePoint (first : UInt8) (others : Bytes) : Nat :=
  -- The first byte has fewer payload bits the more bytes follow it.
  let lead := match others.length with
    | 0 => first.toNat
    | 1 => first.toNat % 32
    | 2 => first.toNat % 16
    | _ => first.toNat % 8
  others.foldl (fun n b => 64 * n + b.toNat % 64) lead

/-- Reads the front of `first :: rest`. -/
def front (first : UInt8) (rest : Bytes) : Front :=
  match following? first with
  | none => .illFormed 1
  | some ranges =>
    let found := countMatching ranges rest
    if found = ranges.length then .char (Char.ofNat (codePoint first (rest.take found))) (found + 1)
    else if (rest.drop found).isEmpty then .cutOff
    else .illFormed (found + 1)

/-- Reads on at `position` with the characters read so far in reverse order. -/
def decodeFrom (position : Nat) (read : List Char) : Bytes → Except Fault String
  | [] => .ok (String.ofList read.reverse)
  | first :: rest =>
    match front first rest with
    | .char c width => decodeFrom (position + width) (c :: read) (rest.drop (width - 1))
    | .illFormed width => .error ⟨position, some width⟩
    | .cutOff => .error ⟨position, none⟩
termination_by bs => bs.length
decreasing_by simp only [List.length_drop, List.length_cons]; omega

/-- The text that a byte string spells, or the first place where it spells none. -/
def decode (bs : Bytes) : Except Fault String := decodeFrom 0 [] bs

/-- Reads on with the characters read so far in reverse order, replacing ill-formed pieces. -/
def decodeLossyFrom (read : List Char) : Bytes → String
  | [] => String.ofList read.reverse
  | first :: rest =>
    match front first rest with
    | .char c width => decodeLossyFrom (c :: read) (rest.drop (width - 1))
    | .illFormed width => decodeLossyFrom ('\uFFFD' :: read) (rest.drop (width - 1))
    | .cutOff => String.ofList ('\uFFFD' :: read).reverse
termination_by bs => bs.length
decreasing_by all_goals simp only [List.length_drop, List.length_cons]; omega

/-- The text that a byte string spells, with U+FFFD for each ill-formed piece. -/
def decodeLossy (bs : Bytes) : String := decodeLossyFrom [] bs

end ChannelGossip.Text.Utf8
