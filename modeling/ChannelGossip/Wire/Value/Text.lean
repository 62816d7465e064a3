import ChannelGossip.Text.Json
import ChannelGossip.Wire.Value

/-! # Values in text

`display` is the form for logs, `json` the form for other programs.  Both keep every value apart
from the others of its kind, except that an alias is shown by its text. -/

namespace ChannelGossip.Value

/-- The value as people read it. -/
def display : Value → String
  | messageType id => toString id.toNat
  | u8 n => toString n.toNat
  | u16 n => toString n.toNat
  | u32 n => toString n.toNat
  | u64 n => toString n.toNat
  | @fixed .rgbColor v => "#" ++ v.hex
  | @fixed .nodeAlias v => Text.Quoted.string (Alias.text v)
  | fixed v => v.hex
  | shortChannelId id => id.text
  | varBytes v => "0x" ++ Text.Hex.encode v.bytes
  | idList list => s!"[enc={list.encoding.byte.toNat}] 0x{Text.Hex.encode list.body}"
  | remainder bytes => "0x" ++ Text.Hex.encode bytes

/-- The value as JSON text. -/
def json : Value → String
  | messageType id => toString id.toNat
  | u8 n => toString n.toNat
  | u16 n => toString n.toNat
  | u32 n => toString n.toNat
  | u64 n => toString n.toNat
  | @fixed .nodeAlias v => Text.Json.quote (Alias.text v)
  | fixed v => Text.Json.quote v.hex
  | shortChannelId id => Text.Json.quote id.text
  | varBytes v => Text.Json.quote (Text.Hex.encode v.bytes)
  | idList list =>
    Text.Json.object
      [("encoding", toString list.encoding.byte.toNat),
       ("data", Text.Json.quote (Text.Hex.encode list.body))]
  | remainder bytes => Text.Json.quote (Text.Hex.encode bytes)

end ChannelGossip.Value
