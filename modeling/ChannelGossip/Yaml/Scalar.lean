import ChannelGossip.Text.Numeral
import ChannelGossip.Yaml.Cursor

/-! # Scalars in a YAML text

A scalar is written plainly or between quotes.  In each style a run of blanks within a line is
kept, and a run that contains line ends is folded: one line end becomes a space, more become one
less. -/

namespace ChannelGossip.Yaml

/-- A scalar: its text, and whether it was written without quotes. -/
structure Scalar where
  text : String
  plain : Bool

/-- What a value that is left out stands for. -/
def Scalar.empty : Scalar := ⟨"", true⟩

/-! ## Folding -/

/-- What a run of blanks and line ends between two words comes to. -/
def fold (run : List Char) : List Char :=
  match run.filter isBreak with
  | [] => run
  | ['\n'] => [' ']
  | '\n' :: more => more
  | breaks => breaks

/-- Whether a run of blanks and line ends holds a tab left of column `indent` at the start of a
    line. -/
def tabTooEarly (indent : Nat) (run : List Char) : Bool :=
  (run.splitBy fun a b => !isBreak a && !isBreak b).drop 1 |>.any fun piece =>
    match piece.findIdx? (· == '\t') with
    -- Only the first tab counts: the blanks left of it are columns.
    | some column => column < indent
    | none => false

/-! ## Plain scalars -/

/-- The characters that structure a value in braces or brackets. -/
def isFlowMark (c : Char) : Bool := [',', '[', ']', '{', '}'].contains c

/-- The other characters that cannot start a plain scalar, whatever follows them. -/
def otherIndicators : List Char := ['#', '&', '*', '!', '|', '>', '\'', '"', '%', '@', '\x60']

/-- Whether a plain scalar can start with `c` before `rest`. -/
def startsPlain (inFlow : Bool) (c : Char) (rest : List Char) : Bool :=
  if isBlank c || isBreak c then false
  else if c == '-' then !blankNext rest
  else if c == '?' || c == ':' then !inFlow && !blankNext rest
  else !(isFlowMark c || otherIndicators.contains c)

/-- The next word of a plain scalar, after the characters read so far in reverse order.  It ends
    before a blank, before a colon that a blank follows and, within braces, before a bracket or
    comma; there a colon right before one of these is refused. -/
def plainWord (inFlow : Bool) (read : List Char) : List Char → Option (List Char)
  | [] => some read.reverse
  | c :: rest =>
    if isBlank c || isBreak c || (c == ':' && blankNext rest) then some read.reverse
    else if inFlow && isFlowMark c then some read.reverse
    else if inFlow && c == ':' && rest.head?.any (fun d => d == '?' || isFlowMark d) then none
    else plainWord inFlow (c :: read) rest

/-- The rest of a plain scalar after the text read so far, in reverse order, and the run of blanks
    behind it. -/
def plainFrom (inFlow : Bool) (indent : Nat) :
    Nat → List Char → List Char → Cursor → Option (String × Cursor)
  | 0, text, _, pos => some (.ofList text.reverse, pos)
  | fuel + 1, text, run, pos => do
    let word ← plainWord inFlow [] pos.rest
    if word.isEmpty then return (.ofList text.reverse, pos)
    -- The blanks before a word belong to the text only once the word is there.
    let text := word.reverse ++ ((fold run).reverse ++ text)
    let afterWord := pos.pastToken word
    let run := afterWord.rest.takeWhile fun c => isBlank c || isBreak c
    if tabTooEarly indent run then none
    let next := { afterWord.past run with fresh := run.any isBreak }
    if (!inFlow && next.column < indent) || next.atEnd || next.rest.head? == some '#' then
      return (.ofList text.reverse, next)
    plainFrom inFlow indent fuel text run next

/-- The plain scalar that starts here, in a block indented to `indent`. -/
def plain? (inFlow : Bool) (indent : Nat) (pos : Cursor) : Option (String × Cursor) :=
  plainFrom inFlow indent (pos.rest.length + 1) [] [] pos

/-! ## Quoted scalars -/

/-- A piece of what stands between quotes. -/
inductive QuotedPiece where
  /-- A character that stands for itself or was escaped. -/
  | char (c : Char)
  /-- A blank or a line end. -/
  | space (c : Char)
  /-- A line end behind a backslash. -/
  | joinedBreak

/-- The text that the pieces between quotes spell, after the text so far and the current run of
    blanks, both in reverse order.  `joined` holds while the run follows a line end behind a
    backslash: then its blanks are dropped and its line ends are kept. -/
def foldPieces (text run : List Char) (joined : Bool) : List QuotedPiece → List Char
  | [] => (closed ++ text).reverse
  | .char c :: rest => foldPieces (c :: (closed ++ text)) [] false rest
  | .space c :: rest => foldPieces text (c :: run) joined rest
  | .joinedBreak :: rest => foldPieces (closed ++ text) [] true rest
where
  /-- What the current run comes to, in reverse order. -/
  closed : List Char :=
    (if joined then run.reverse.filter isBreak else fold run.reverse).reverse

/-- The character that a backslash and a letter stand for. -/
def escaped? : Char → Option Char
  | '0' => some '\x00'
  | 'a' => some '\x07'
  | 'b' => some '\x08'
  | 't' => some '\t'
  | '\t' => some '\t'
  | 'n' => some '\n'
  | 'v' => some '\x0b'
  | 'f' => some '\x0c'
  | 'r' => some '\r'
  | 'e' => some '\x1b'
  | ' ' => some ' '
  | '"' => some '"'
  | '/' => some '/'
  | '\\' => some '\\'
  | 'N' => some '\u0085'
  | '_' => some '\u00a0'
  | 'L' => some '\u2028'
  | 'P' => some '\u2029'
  | _ => none

/-- How many hexadecimal digits follow a backslash and a letter. -/
def escapeDigits? : Char → Option Nat
  | 'x' => some 2
  | 'u' => some 4
  | 'U' => some 8
  | _ => none

/-- The character with the code point that the digits give. -/
def charOfDigits? (digits : List Char) : Option Char := do
  let n ← Text.Numeral.ofDigits? 16 digits
  if n.isValidChar then some (Char.ofNat n) else none

/-- The pieces up to the closing quote and what follows it, with the pieces read so far in reverse
    order and at most `fuel` to go.  A document marker at the start of a line is refused. -/
def quotedPieces (quote : Char) :
    Nat → List QuotedPiece → Cursor → Option (List QuotedPiece × Cursor)
  | 0, _, _ => none
  | fuel + 1, read, pos =>
    if pos.atEnd then none
    else
      match pos.rest with
      | [] => none
      | c :: rest =>
        if c == quote then
          if quote == '\'' && rest.head? == some '\'' then
            quotedPieces quote fuel (.char '\'' :: read) (pos.past ['\'', '\''])
          else some (read.reverse, pos.pastToken [c])
        else if isBlank c || isBreak c then
          quotedPieces quote fuel (.space c :: read) (pos.past [c])
        else if quote == '"' && c == '\\' then
          match rest with
          | [] => none
          | e :: more =>
            -- A backslash at the end of a line takes the line end away.
            if isBreak e then quotedPieces quote fuel (.joinedBreak :: read) (pos.past [c, e])
            else
              match escapeDigits? e with
              | some n =>
                let digits := more.take n
                if digits.length < n then none
                else
                  match charOfDigits? digits with
                  | some d =>
                    quotedPieces quote fuel (.char d :: read) (pos.past (c :: e :: digits))
                  | none => none
              | none =>
                match escaped? e with
                | some d => quotedPieces quote fuel (.char d :: read) (pos.past [c, e])
                | none => none
        else quotedPieces quote fuel (.char c :: read) (pos.past [c])

/-- The scalar between the given quotes that starts here. -/
def quoted? (quote : Char) (pos : Cursor) : Option (String × Cursor) := do
  let (pieces, rest) ← quotedPieces quote (pos.rest.length + 1) [] (pos.past [quote])
  return (.ofList (foldPieces [] [] false pieces), rest)

/-- The scalar that starts here, in a block indented to `indent`. -/
def scalar? (inFlow : Bool) (indent : Nat) (pos : Cursor) : Option (Scalar × Cursor) :=
  match pos.rest with
  | [] => none
  | c :: rest =>
    if c == '\'' || c == '"' then (quoted? c pos).map fun (text, next) => (⟨text, false⟩, next)
    else if startsPlain inFlow c rest then
      (plain? inFlow indent pos).map fun (text, next) => (⟨text, true⟩, next)
    else none

end ChannelGossip.Yaml
