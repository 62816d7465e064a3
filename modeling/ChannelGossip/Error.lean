import ChannelGossip.Text.Hex
import ChannelGossip.Text.Utf8
import ChannelGossip.Wire.Field
import ChannelGossip.Wire.Kind
import ChannelGossip.Wire.MessageKind

/-! # Errors

What can go wrong, by cause.  Every error has a stable code for counting and a wording for
people; the wording is decided here and nowhere else. -/

namespace ChannelGossip

/-- The parts of an address descriptor that can be cut short. -/
inductive AddressPart where
  | hostname
  | descriptor
deriving Repr, DecidableEq

/-- The name of an address part in text. -/
def AddressPart.name : AddressPart → String
  | hostname => "hostname"
  | descriptor => "descriptor"

/-- A value, text or list of values that breaks the rules of its form. -/
inductive Malformation where
  /-- Bytes for a value of fixed width have another length. -/
  | wrongWidth (kind : FixedKind) (length : Nat)
  /-- A text is not the hexadecimal form of a value of fixed width. -/
  | badHex (kind : FixedKind) (fault : Text.Hex.Fault)
  /-- A text is not the hexadecimal form of a frame. -/
  | badFrame (fault : Text.Hex.Fault)
  /-- The parts of a short channel id do not fit their bits. -/
  | idOutOfRange (block tx output : Nat)
  /-- A text is not three numbers joined by `x`. -/
  | badIdText (text : String)
  /-- More bytes than a two-byte length can count. -/
  | tooLong (length : Nat)
  /-- More short channel ids than one list can carry. -/
  | tooManyIds (count : Nat)
  /-- An id list of length zero, which has no room for its encoding byte. -/
  | noEncodingByte
  /-- An id list whose body does not divide into ids. -/
  | raggedIds (length : Nat)
  /-- A message is given the wrong number of values. -/
  | valueCount (message : MessageKind) (expected got : Nat)
  /-- A message is given a value of the wrong kind. -/
  | valueKind (message : MessageKind) (field : Field) (expected got : Kind)
  /-- An address descriptor ends too early. -/
  | badAddress (part : AddressPart) (needed available : Nat)
  /-- Any other breach, in words. -/
  | other (text : String)
deriving Repr, DecidableEq

/-- The wording of a malformation. -/
def Malformation.message : Malformation → String
  | wrongWidth kind length => s!"{kind.name} must be {kind.width} bytes, got {length}"
  | badHex kind fault => s!"{kind.name}: {fault.message}"
  | badFrame fault => s!"bad hex frame: {fault.message}"
  | idOutOfRange block tx output => s!"short channel id {block}x{tx}x{output} out of range"
  | badIdText text => s!"invalid short channel id: {text}"
  | tooLong length => s!"{length} bytes do not fit a u16 length prefix"
  | tooManyIds count => s!"{count} short channel ids do not fit one list"
  | noEncodingByte => "encoded short channel ids without encoding byte"
  | raggedIds length => s!"encoded short channel ids: {length} bytes is not a multiple of 8"
  | valueCount message expected got => s!"{message.name} takes {expected} fields, got {got}"
  | valueKind message field expected got =>
    s!"{message.name}.{field.tag} expects {expected.name}, got {got.name}"
  | badAddress part needed available =>
    s!"node_announcement address {part.name}: need {needed} bytes, have {available}"
  | other text => text

/-- A fault in the settings of a node. -/
inductive ConfigFault where
  /-- The settings file could not be read. -/
  | unreadable (path reason : String)
  /-- The text is no YAML document of the required shape. -/
  | invalidYaml
  /-- The chain is not named by a hash. -/
  | badChain (cause : Malformation)
  /-- A number lies outside its bounds. -/
  | notBetween (key : String) (lowest highest : Nat)
  /-- A number exceeds its bound. -/
  | tooLarge (key : String) (highest : Nat)
  /-- Any other fault, in words. -/
  | other (text : String)
deriving Repr, DecidableEq

/-- The wording of a fault in the settings. -/
def ConfigFault.message : ConfigFault → String
  | unreadable path reason => s!"read {path} failed: {reason}"
  | invalidYaml => "invalid yaml"
  | badChain cause => s!"node.chain: malformed: {cause.message}"
  | notBetween key lowest highest => s!"{key} must be between {lowest} and {highest}"
  | tooLarge key highest => s!"{key} must be at most {highest}"
  | other text => text

/-- A fault of the node itself or of what it runs in, as opposed to bad input. -/
inductive InternalFault where
  /-- Nobody reads a session's outbound queue any more. -/
  | queueClosed (peer : String)
  /-- A session's outbound queue has no room. -/
  | queueFull (peer : String)
  /-- A line of input is not UTF-8. -/
  | unreadableLine (fault : Text.Utf8.Fault)
  /-- The values of a message do not fit its layout. -/
  | illFormed (message : MessageKind)
  /-- No session has the given number. -/
  | noSession (number : Nat)
  /-- Any other fault, in words. -/
  | other (text : String)
deriving Repr, DecidableEq

/-- The wording of an internal fault. -/
def InternalFault.message : InternalFault → String
  | queueClosed peer => s!"outbound queue closed: {peer}"
  | queueFull peer => s!"outbound queue full: {peer}"
  | unreadableLine fault => s!"read input: {fault.message}"
  | illFormed message => s!"values of {message.name} do not fit its layout"
  | noSession number => s!"no session {number}"
  | other text => text

/-- Everything that can go wrong. -/
inductive Error where
  /-- The bytes end inside a value, of the given field once that is known. -/
  | underflow (field : Option Field) (needed available : Nat)
  /-- The type number is not in the catalogue. -/
  | unknownType (id : UInt16)
  /-- Bytes were left over after the remainder was taken. -/
  | leftover (count : Nat)
  /-- A message is of another kind than asked for; `none` stands for an uncatalogued one. -/
  | wrongKind (expected : MessageKind) (found : Option MessageKind)
  /-- A value breaks the rules of its form. -/
  | malformed (cause : Malformation)
  /-- An id list is encoded in a way that cannot be expanded. -/
  | unsupportedEncoding (encoding : UInt8)
  /-- A frame is longer than the node accepts. -/
  | tooLarge (length limit : Nat)
  /-- The settings are unusable. -/
  | badConfig (fault : ConfigFault)
  /-- The settings are of a version that this node does not know. -/
  | unsupportedVersion
  /-- The node itself is at fault. -/
  | internal (fault : InternalFault)
deriving Repr, DecidableEq

namespace Error

/-- The code that an error is counted under. -/
def code : Error → String
  | underflow .. => "UNDERFLOW"
  | unknownType _ => "UNKNOWN_DISCRIMINATOR"
  | leftover _ => "INVARIANT_VIOLATION"
  | wrongKind .. => "WRONG_VARIANT"
  | malformed _ => "MALFORMED"
  | unsupportedEncoding _ => "UNSUPPORTED_ENCODING"
  | tooLarge .. => "PAYLOAD_TOO_LARGE"
  | badConfig _ => "BAD_CONFIG"
  | unsupportedVersion => "UNSUPPORTED_VERSION"
  | internal _ => "INTERNAL"

/-- The wording of an error. -/
def message : Error → String
  | underflow field needed available =>
    let place := (field.map Field.tag).getD "element"
    s!"underflow decoding {place}: need {needed} bytes, have {available}"
  | unknownType id => s!"unknown message type {id.toNat}"
  | leftover count => s!"{count} bytes left after remainder capture"
  | wrongKind expected found =>
    s!"expected {expected.name} message, found {MessageKind.nameOf found}"
  | malformed cause => s!"malformed: {cause.message}"
  | unsupportedEncoding encoding =>
    s!"unsupported short channel id encoding {encoding.toNat}"
  | tooLarge length limit => s!"message of {length} bytes exceeds limit of {limit}"
  | badConfig fault => s!"bad config: {fault.message}"
  | unsupportedVersion => "unsupported config version"
  | internal fault => s!"internal: {fault.message}"

/-- Whether an error is the node's own fault rather than that of its input. -/
def isInternal : Error → Bool
  | leftover _ | internal _ => true
  | _ => false

/-- Names the field in which the bytes ended, unless one is named already. -/
def atField (field : Field) : Error → Error
  | underflow none needed available => underflow (some field) needed available
  | e => e

end Error

end ChannelGossip
