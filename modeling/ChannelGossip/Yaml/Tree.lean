import ChannelGossip.Yaml.Scalar

/-! # Trees of a YAML document

The trees that settings are written as: mappings, in block or brace style, whose keys are scalars
and whose values are scalars or mappings again.  A key is told by the colon on its line, or by a
question mark in front of it; then its colon may stand on a later line or be missing.  A document
that holds anything else has no tree: no setting is a list or has a mapping for a key, and settings
are written without anchors, tags, directives and block scalars. -/

namespace ChannelGossip.Yaml

/-- A scalar or a mapping with its members in order. -/
inductive Tree where
  | scalar (s : Scalar)
  | mapping (members : List (String × Tree))

namespace Tree

/-- The value that is left out. -/
def empty : Tree := .scalar .empty

/-- The farthest that the colon after a key may be from the key's start. -/
def keyReach : Nat := 1024

/-- Whether a token that starts at `key` and is followed by a colon at `colon` is a key. -/
def isKey (key colon : Cursor) : Bool :=
  key.fresh && key.line == colon.line && colon.column ≤ key.column + keyReach

/-- Whether a colon stands here that makes the token before it a key. -/
def atColon (pos : Cursor) : Bool :=
  match pos.rest with
  | ':' :: rest => blankNext rest
  | _ => false

/-- Whether a question mark stands here that announces a key, outside braces. -/
def atQuestion (pos : Cursor) : Bool :=
  match pos.rest with
  | '?' :: rest => pos.fresh && blankNext rest
  | _ => false

/-! ## Brace style -/

mutual

/-- The value in braces that starts here: a scalar or another mapping in braces. -/
def flowValue (indent : Nat) : Nat → Cursor → Option (Tree × Cursor)
  | 0, _ => none
  | fuel + 1, pos =>
    if pos.atEnd then none
    else if pos.rest.head? == some '{' then
      flowMembers indent fuel [] ((pos.pastToken ['{']).gap true)
    else
      (scalar? true indent pos).map fun (s, next) => (.scalar s, next)

/-- The members from here to the closing brace, after those read so far in reverse order.  A
    member without a colon has the empty value, and so has one with nothing after its colon.  Any
    question mark announces a key. -/
def flowMembers (indent : Nat) :
    Nat → List (String × Tree) → Cursor → Option (Tree × Cursor)
  | 0, _, _ => none
  | fuel + 1, read, pos =>
    if pos.rest.head? == some '}' then some (.mapping read.reverse, pos.pastToken ['}'])
    else if pos.atEnd then none
    else do
      let announced := pos.rest.head? == some '?'
      let start := if announced then (pos.pastToken ['?']).gap true else pos
      let (key, afterKey) ← scalar? true indent start
      let afterKey := afterKey.gap true
      let (value, next) ←
        if afterKey.rest.head? == some ':' then
          -- The first token of a member may be a key wherever it stands.
          if announced || isKey { start with fresh := true } afterKey then
            let afterColon := (afterKey.pastToken [':']).gap true
            if afterColon.rest.head?.any fun c => c == ',' || c == '}' then some (empty, afterColon)
            else flowValue indent fuel afterColon
          else none
        else some (empty, afterKey)
      let next := next.gap true
      let read := (key.text, value) :: read
      match next.rest.head? with
      | some ',' => flowMembers indent fuel read ((next.pastToken [',']).gap true)
      | some '}' => flowMembers indent fuel read next
      | _ => none

end

/-! ## Block style -/

/-- The key that the colon on its line tells, in a mapping whose keys stand in column `column`, and
    the place after its colon. -/
def plainKey? (column : Nat) (pos : Cursor) : Option (String × Cursor) := do
  let (key, next) ← scalar? false (column + 1) pos
  let next := next.gap false
  if atColon next && isKey pos next then return (key.text, next.pastToken [':'])
  none

/-- The key behind a question mark, in a mapping whose keys stand in column `column`, and the place
    after its colon.  The colon stands below the question mark; without one, the next token must not
    be indented further, so that no value is found there. -/
def announcedKey? (column : Nat) (pos : Cursor) : Option (String × Cursor) := do
  let start := (pos.past ['?']).gap false
  if start.column ≤ column then none
  let (key, next) ← scalar? false (column + 1) start
  let next := next.gap false
  -- A colon on the line of the key would make a mapping the key.
  if atColon next then
    if next.fresh && next.column == column then return (key.text, next.past [':'])
    none
  else
    if next.atEnd || (next.fresh && next.column ≤ column) then return (key.text, next)
    none

/-- The key that starts here, in a mapping whose keys stand in column `column`, and the place where
    its value is looked for. -/
def blockKey? (column : Nat) (pos : Cursor) : Option (String × Cursor) :=
  if atQuestion pos then announcedKey? column pos else plainKey? column pos

mutual

/-- The value that starts here, in a block indented to `indent`, and the token after it. -/
def blockValue (indent : Nat) : Nat → Cursor → Option (Tree × Cursor)
  | 0, _ => none
  | fuel + 1, pos =>
    if pos.rest.head? == some '{' then do
      let (tree, next) ← flowValue indent fuel pos
      let next := next.gap false
      if atColon next then none else return (tree, next)
    else if atQuestion pos then blockMembers pos.column fuel [] pos
    else do
      let (s, next) ← scalar? false indent pos
      let next := next.gap false
      if atColon next then
        if isKey pos next then blockMembers pos.column fuel [] pos else none
      else return (.scalar s, next)

/-- The members from here on of the mapping whose keys stand in column `column`, after those read
    so far in reverse order. -/
def blockMembers (column : Nat) :
    Nat → List (String × Tree) → Cursor → Option (Tree × Cursor)
  | 0, _, _ => none
  | fuel + 1, read, pos => do
    let (key, afterKey) ← blockKey? column pos
    let pos := afterKey.gap false
    let (value, next) ←
      -- A token that is not indented further belongs to this mapping or one around it.
      if pos.atEnd || (pos.fresh && pos.column ≤ column) then some (empty, pos)
      else blockValue (column + 1) fuel pos
    let read := (key, value) :: read
    if next.atEnd || next.column < column then return (.mapping read.reverse, next)
    if next.column == column then blockMembers column fuel read next else none

end

/-! ## Documents -/

/-- Whether nothing but ends of the document and comments follows. -/
def isFinished : Nat → Cursor → Bool
  | 0, _ => false
  | fuel + 1, pos =>
    let next := pos.gap false
    next.rest.isEmpty || (next.isMarker '.' && isFinished fuel (next.pastToken ['.', '.', '.']))

/-- The tree of the only document in a text. -/
def parse? (text : String) : Option Tree := do
  let chars := text.toList
  if !chars.all isAllowed then none
  let start := (Cursor.start (unifyBreaks [] chars)).gap false
  let pos := if start.isMarker '-' then (start.pastToken ['-', '-', '-']).gap false else start
  let fuel := 2 * pos.rest.length + 2
  let (tree, next) ← blockValue 0 fuel pos
  if isFinished fuel next then return tree
  none

/-! ## Typed readings -/

/-- The text of a scalar, in whatever style it is written. -/
def text? : Tree → Option String
  | scalar s => some s.text
  | mapping _ => none

/-- The members of a mapping; a value that is left out counts as a mapping without members. -/
def members? : Tree → Option (List (String × Tree))
  | mapping members => some members
  | scalar s => if s.plain && s.text.isEmpty then some [] else none

/-- The truth value of a plain scalar. -/
def bool? : Tree → Option Bool
  | scalar ⟨text, true⟩ =>
    if ["true", "True", "TRUE"].contains text then some true
    else if ["false", "False", "FALSE"].contains text then some false
    else none
  | _ => none

/-- The number that digits in a base stand for, if they carry no sign. -/
def unsigned? (base limit : Nat) (cs : List Char) : Option Nat :=
  if cs.head? == some '+' then none else Text.Numeral.parse? base limit cs

/-- The number below `limit` that a plain scalar stands for.  An optional plus sign is followed by
    `0x`, `0o` or `0b` and digits, or by decimal digits without a leading zero. -/
def nat? (limit : Nat) : Tree → Option Nat
  | scalar ⟨text, true⟩ =>
    let cs := text.toList
    let cs := if cs.head? == some '+' then cs.drop 1 else cs
    match cs with
    | '0' :: 'x' :: digits => unsigned? 16 limit digits
    | '0' :: 'o' :: digits => unsigned? 8 limit digits
    | '0' :: 'b' :: digits => unsigned? 2 limit digits
    | ['0'] => some 0
    | '0' :: _ => none
    | digits => unsigned? 10 limit digits
  | _ => none

end Tree

end ChannelGossip.Yaml
