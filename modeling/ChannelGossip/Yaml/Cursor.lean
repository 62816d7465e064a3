/-! # Positions in a YAML text

A cursor is the text that is still to be read, with its place on the page.  The place matters:
indentation gives a text its structure, a key must stand on one line, and only the first token of
a line may start a key.  Line ends are written in one way before reading, so that each is a single
character. -/

namespace ChannelGossip.Yaml

/-- A space or a tab. -/
def isBlank (c : Char) : Bool := c == ' ' || c == '\t'

/-- A line end. -/
def isBreak (c : Char) : Bool := c == '\n' || c == '\u2028' || c == '\u2029'

/-- Whether the next character, if there is one, is a blank or a line end. -/
def blankNext : List Char → Bool
  | [] => true
  | c :: _ => isBlank c || isBreak c

/-- The characters that a YAML text may hold at all. -/
def isAllowed (c : Char) : Bool :=
  let n := c.toNat
  n == 0x09 || n == 0x0A || n == 0x0D || (0x20 ≤ n && n ≤ 0x7E) || n == 0x85
    || (0xA0 ≤ n && n ≤ 0xFFFD) || 0x10000 ≤ n

/-- The text with each carriage return, line feed, both in this order, or next-line character
    written as a line feed.  What is read so far stands in reverse order. -/
def unifyBreaks (read : List Char) : List Char → List Char
  | '\r' :: '\n' :: rest => unifyBreaks ('\n' :: read) rest
  | c :: rest => unifyBreaks ((if c == '\r' || c == '\u0085' then '\n' else c) :: read) rest
  | [] => read.reverse

/-- A place in a text.  `fresh` holds as long as the next token may start a key. -/
structure Cursor where
  rest : List Char
  line : Nat
  column : Nat
  fresh : Bool

namespace Cursor

/-- The start of a text. -/
def start (text : List Char) : Cursor := ⟨text, 0, 0, true⟩

/-- The place after one character. -/
def step (pos : Cursor) (c : Char) : Cursor :=
  if isBreak c then { pos with line := pos.line + 1, column := 0 }
  else { pos with column := pos.column + 1 }

/-- The place after the given characters, which the text starts with. -/
def past (pos : Cursor) (read : List Char) : Cursor :=
  { read.foldl step pos with rest := pos.rest.drop read.length }

/-- The place after a token of the given characters. -/
def pastToken (pos : Cursor) (read : List Char) : Cursor :=
  { pos.past read with fresh := false }

/-- Whether the text goes on with `---` or `...` alone at the start of a line. -/
def isMarker (pos : Cursor) (mark : Char) : Bool :=
  pos.column == 0 && pos.rest.take 3 == [mark, mark, mark] && blankNext (pos.rest.drop 3)

/-- Whether the document ends here. -/
def atEnd (pos : Cursor) : Bool := pos.rest.isEmpty || pos.isMarker '-' || pos.isMarker '.'

/-- Skips blanks, comments and line ends, at most `fuel` of them.  Outside braces a tab may not
    stand before the first token of a line, and a line end makes the next token the first.  A byte
    order mark may start any line; it counts as a column. -/
def skipGap (inFlow : Bool) : Nat → Cursor → Cursor
  | 0, pos => pos
  | fuel + 1, pos =>
    match pos.rest with
    | [] => pos
    | c :: _ =>
      if c == ' ' || (c == '\t' && (inFlow || !pos.fresh)) || (c == '\uFEFF' && pos.column == 0)
      then skipGap inFlow fuel (pos.past [c])
      else if c == '#' then
        skipGap inFlow fuel (pos.past (pos.rest.takeWhile fun c => !isBreak c))
      -- A line end outside braces is what makes a key possible again.
      else if isBreak c then
        skipGap inFlow fuel { pos.past [c] with fresh := pos.fresh || !inFlow }
      else pos

/-- The next token. -/
def gap (inFlow : Bool) (pos : Cursor) : Cursor := pos.skipGap inFlow pos.rest.length

end Cursor

end ChannelGossip.Yaml
