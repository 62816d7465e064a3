import ChannelGossip.Message

/-! # Typed contents

A catalogued message can be read as a structure with a field for each slot of its layout, and any
such structure can be written back as a message.  The bytes after the last field are not part of
the contents; who passes a message on keeps the message. -/

namespace ChannelGossip

/-- The structures that hold the contents of one kind of message.  `values` lists the fields in
    wire order and `ofValues?` reads such a list back. -/
class Contents (α : Type) where
  kind : MessageKind
  values : α → List Value
  ofValues? : List Value → Option α

/-- The message with the given contents and nothing after them. -/
def Contents.toMessage {α : Type} [Contents α] (a : α) : Message :=
  .assemble (Contents.kind α) (Contents.values a)

/-- The contents of a message, if it is of the right kind. -/
def Message.contents (α : Type) [Contents α] (m : Message) : Except Error α :=
  if m.kind? ≠ some (Contents.kind α) then .error (.wrongKind (Contents.kind α) m.kind?)
  else
    match Contents.ofValues? (m.fields.tail.map Prod.snd) with
    | some a => .ok a
    | none => .error (.internal (.illFormed (Contents.kind α)))

end ChannelGossip
