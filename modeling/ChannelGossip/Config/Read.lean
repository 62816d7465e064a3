import ChannelGossip.Config
import ChannelGossip.Yaml.Tree

/-! # Reading settings

Settings are a YAML mapping with a version and the two optional sections `node` and `gossip`.
Whatever the text leaves out has its default; a key that is not known, or that occurs twice, makes
the whole text unreadable. -/

namespace ChannelGossip

namespace Settings

/-- The members of a section that has no other keys than the given ones, and none twice. -/
def section? (keys : List String) (tree : Yaml.Tree) : Option (List (String × Yaml.Tree)) := do
  let members ← tree.members?
  let names := members.map Prod.fst
  if names.all keys.contains && names.eraseDups.length == names.length then return members
  none

/-- The value of a key, or its default if the key is missing. -/
def value? {α : Type} (members : List (String × Yaml.Tree)) (key : String)
    (read : Yaml.Tree → Option α) (default : α) : Option α :=
  match members.lookup key with
  | some tree => read tree
  | none => some default

/-- The settings that a YAML document describes. -/
def ofTree? (tree : Yaml.Tree) : Option Settings := do
  let top ← section? ["version", "node", "gossip"] tree
  let version ← (← top.lookup "version").nat? UInt32.size
  let node ← value? top "node"
    (section? ["chain", "max_message_bytes", "unknown_messages"]) []
  let gossip ← value? top "gossip"
    (section? ["answer_pings", "max_pong_bytes", "max_reply_ids"]) []
  let defaults : Settings := { version }
  return {
    version
    chain := ← value? node "chain" Yaml.Tree.text? defaults.chain
    maxMessageBytes :=
      ← value? node "max_message_bytes" (Yaml.Tree.nat? UInt64.size) defaults.maxMessageBytes
    unknownMessages :=
      ← value? node "unknown_messages" (·.text?.bind UnknownPolicy.ofWord?)
        defaults.unknownMessages
    answerPings := ← value? gossip "answer_pings" Yaml.Tree.bool? defaults.answerPings
    maxPongBytes :=
      ← value? gossip "max_pong_bytes" (fun t => (t.nat? UInt16.size).map UInt16.ofNat)
        defaults.maxPongBytes
    maxReplyIds :=
      ← value? gossip "max_reply_ids" (Yaml.Tree.nat? UInt64.size) defaults.maxReplyIds }

end Settings

/-- The configuration that a settings text describes. -/
def Config.read (text : String) : Except Error Config :=
  match Yaml.Tree.parse? text >>= Settings.ofTree? with
  | some settings => settings.check
  | none => .error (.badConfig .invalidYaml)

end ChannelGossip
