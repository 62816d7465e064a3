import ChannelGossip.Message
import ChannelGossip.Wire.Value.Text

/-! # Messages in text

A message is shown as its name with its fields in wire order, the remainder last. -/

namespace ChannelGossip.Message

/-- The message as people read it. -/
def display (m : Message) : String :=
  let fields := m.fields.map fun (field, value) => s!"{field.tag}: {value.display}"
  let remainder := m.remainder.toList.map fun bytes => s!"remainder: 0x{Text.Hex.encode bytes}"
  m.name ++ "(" ++ ", ".intercalate (fields ++ remainder) ++ ")"

/-- The message as JSON text: its name, its fields, its remainder. -/
def json (m : Message) : String :=
  let fields := m.fields.map fun (field, value) => (field.tag, value.json)
  let remainder := m.remainder.toList.map fun bytes =>
    ("remainder", Text.Json.quote (Text.Hex.encode bytes))
  Text.Json.object (("name", Text.Json.quote m.name) :: fields ++ remainder)

end ChannelGossip.Message
