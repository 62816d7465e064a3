import ChannelGossip.Command

/-! # The program

The outer layer of the command: it reads files and streams, measures how long each message takes
to handle, and writes what the command decides. -/

namespace ChannelGossip.Program

/-- Everything that is left on a stream. -/
partial def readAll (stream : IO.FS.Stream) (read : ByteArray) : IO ByteArray := do
  let chunk ← stream.read 65536
  if chunk.isEmpty then return read
  readAll stream (read ++ chunk)

/-- The text of a file, or why there is none. -/
def readSettings (path : String) : IO (Except String String) := do
  try
    return .ok (← IO.FS.readFile path)
  catch e =>
    return .error (toString e)

/-- Plays one line and measures how long the node takes. -/
def playTimed (r : Replay) (line : Bytes) : IO Replay := do
  match r.state with
  | .reading =>
    match r.accept line with
    | (r, none) => return r
    | (r, some m) =>
      let started ← IO.monoNanosNow
      let step ← IO.lazyPure fun _ => r.handle m
      let ended ← IO.monoNanosNow
      return r.settle m step (ended - started)
  | _ => return r

/-- The command, run on the process's own streams. -/
def run (args : List String) : IO UInt32 := do
  let path := args.head?.getD Command.defaultPath
  match Command.loadConfig path (← readSettings path) with
  | .error _ => return 1
  | .ok config =>
    let input ← readAll (← IO.getStdin) .empty
    let mut replay := Replay.start (.start config) Command.inputPeer
    for line in Text.lines input.toList do
      replay ← playTimed replay line
    let outcome := Command.Outcome.ofReplay replay
    let stdout ← IO.getStdout
    for line in outcome.stdout do
      stdout.putStr (line ++ "\n")
    stdout.flush
    let stderr ← IO.getStderr
    for line in outcome.stderr do
      stderr.putStr (line ++ "\n")
    return outcome.exitCode.toUInt32

end ChannelGossip.Program

/-- The command. -/
def main (args : List String) : IO UInt32 := ChannelGossip.Program.run args
