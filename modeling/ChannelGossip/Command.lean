import ChannelGossip.Config.Read
import ChannelGossip.Replay

/-! # The command

The command reads its settings from a file, replays its standard input and writes the node's
replies to standard output and its metrics to standard error.  Without usable settings it writes
nothing and fails. -/

namespace ChannelGossip.Command

/-- The settings file that is read when the command is given none. -/
def defaultPath : String := "gossipwire.yaml"

/-- The peer that standard input speaks for. -/
def inputPeer : String := "stdin"

/-- The configuration in the settings file of the given path, whose text or reason for having none
    is `file`. -/
def loadConfig (path : String) (file : Except String String) : Except Error Config :=
  match file with
  | .ok text => Config.read text
  | .error reason => .error (.badConfig (.unreadable path reason))

/-- What the command has written when it ends, line by line, and its exit code. -/
structure Outcome where
  exitCode : UInt8
  stdout : List String
  stderr : List String
deriving Repr, DecidableEq

/-- The outcome of a replay. -/
def Outcome.ofReplay (r : Replay) : Outcome :=
  match r.report with
  | .ok report => ⟨0, report.output, r.finish.metrics.render⟩
  | .error _ => ⟨1, r.output, []⟩

/-- Runs the command with the given arguments. -/
def run (args : List String) (readFile : String → Except String String) (input : Bytes)
    (nanos : Nat → Nat) : Outcome :=
  let path := args.head?.getD defaultPath
  match loadConfig path (readFile path) with
  | .error _ => ⟨1, [], []⟩
  | .ok config => .ofReplay (Replay.run (.start config) inputPeer nanos input)

end ChannelGossip.Command
