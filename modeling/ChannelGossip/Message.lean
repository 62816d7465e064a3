import ChannelGossip.Wire.Layout
import ChannelGossip.Wire.Value

/-! # Messages

A message is its type number, one value per slot of its layout, and the bytes after the last slot,
if there are any.  Reading keeps every byte: a message of a newer protocol version, or one that is
not in the catalogue at all, is written back exactly as it came. -/

namespace ChannelGossip

/-- A message, read or built. -/
structure Message where
  typeId : UInt16
  /-- The fields in wire order, the type number first. -/
  fields : List (Field × Value)
  /-- The bytes after the last field; never an empty string. -/
  remainder : Option Bytes
deriving Repr, DecidableEq

/-- Bytes after the last field, with `none` for no bytes. -/
def nonEmpty (bytes : Bytes) : Option Bytes := if bytes.isEmpty then none else some bytes

/-- One value per slot from the front of a byte string, and the rest. -/
def Layout.read : Layout → Bytes → Except Error (List (Field × Value) × Bytes)
  | [], bs => .ok ([], bs)
  | slot :: layout, bs => do
    let (value, rest) ← (slot.kind.read bs).mapError (·.atField slot.field)
    let (fields, rest) ← Layout.read layout rest
    return ((slot.field, value) :: fields, rest)

/-- The type number at the front of a frame. -/
def peekType (frame : Bytes) : Except Error UInt16 := do
  let (n, _) ← (takeNat 2 (frame.take 2)).mapError (·.atField .type)
  return .ofNat n

namespace Message

/-! ## Reading -/

/-- The message that a frame holds under a given layout.  No byte may be left once the remainder is
    taken. -/
def readAs (layout : Layout) (frame : Bytes) : Except Error Message := do
  let typeId ← peekType frame
  let (fields, rest) ← layout.read frame
  let (remainder, left) :=
    if rest.isEmpty then (none, rest)
    else
      let (bytes, left) := takeRemainder rest
      (some bytes, left)
  if left.isEmpty then return ⟨typeId, fields, remainder⟩ else throw (.leftover left.length)

/-- The message that a frame holds.  A type number outside the catalogue leaves the rest of the
    frame unread. -/
def decode (frame : Bytes) : Except Error Message := do
  let typeId ← peekType frame
  readAs (Layout.ofTypeId typeId) frame

/-- The message that a frame holds, if its type number is in the catalogue. -/
def decodeKnown (frame : Bytes) : Except Error Message := do
  let typeId ← peekType frame
  match MessageKind.ofTypeId? typeId with
  | some kind => readAs kind.layout frame
  | none => throw (.unknownType typeId)

/-- The message that a frame holds, if it is of the given kind. -/
def decodeAs (kind : MessageKind) (frame : Bytes) : Except Error Message := do
  let typeId ← peekType frame
  if typeId = kind.typeId then readAs kind.layout frame
  else throw (.wrongKind kind (MessageKind.ofTypeId? typeId))

/-! ## Building -/

/-- The message of a kind with one value for each slot after the type number. -/
def assemble (kind : MessageKind) (values : List Value) : Message where
  typeId := kind.typeId
  fields := (.type, .messageType kind.typeId) :: (kind.body.map Slot.field).zip values
  remainder := none

/-- The first value that is not of its slot's kind. -/
def mismatch? (kind : MessageKind) (values : List Value) : Option Malformation :=
  (kind.body.zip values).findSome? fun (slot, value) =>
    if slot.kind = value.kind then none
    else some (.valueKind kind slot.field slot.kind value.kind)

/-- The message of a kind with the given values, if they fit its layout. -/
def ofValues (kind : MessageKind) (values : List Value) : Except Error Message :=
  if values.length ≠ kind.body.length then
    .error (.malformed (.valueCount kind kind.body.length values.length))
  else
    match mismatch? kind values with
    | some fault => .error (.malformed fault)
    | none => .ok (assemble kind values)

/-- The same message with other bytes after its last field. -/
def withRemainder (m : Message) (bytes : Bytes) : Message := { m with remainder := nonEmpty bytes }

/-! ## Looking inside -/

/-- The catalogued kind of a message. -/
def kind? (m : Message) : Option MessageKind := MessageKind.ofTypeId? m.typeId

/-- The name of a message, or `unknown`. -/
def name (m : Message) : String := typeName m.typeId

/-- The value of a field. -/
def get? (m : Message) (field : Field) : Option Value :=
  (m.fields.find? (·.1 = field)).map Prod.snd

/-- Whether a message has a field; the remainder counts when there is one. -/
def contains (m : Message) (field : Field) : Bool :=
  match field with
  | .remainder => m.remainder.isSome
  | field => (m.get? field).isSome

/-! ## Writing -/

/-- The frame of a message: its values in order, then its remainder. -/
def encode (m : Message) : Bytes :=
  m.fields.flatMap (fun (_, value) => value.encode) ++ m.remainder.getD []

end Message

end ChannelGossip
