import RawPost.Program
import Std.Time

/-!
# The command

The command plays an exchange against a peer whose stream is the standard input: the connection is there
from the start and takes all that it is offered, and the response is what can be read before the input
ends.  The input is only read if there is an exchange.
-/

namespace RawPost.Main

def variableNames : List String :=
  [Settings.connectTimeoutVariable,
   Settings.readTimeoutVariable,
   Settings.responseLimitVariable,
   Settings.debugVariable]

def readEnvironment : IO Environment :=
  variableNames.filterMapM fun name => do
    return (← IO.getEnv name).map fun raw => (name, raw)

partial def readIncoming (input : IO.FS.Stream) (octets : ByteArray) : IO ByteArray := do
  let more ← input.read 4096
  if more.isEmpty then
    return octets
  readIncoming input (octets ++ more)

def stamp : IO String := do
  return (← Std.Time.DateTime.now).format "uuuu-MM-dd HH:mm:ss"

def status (ending : Program.Ending) : UInt32 :=
  match ending with
  | .returned status => .ofNat status
  | .exited status => .ofNat status
  | .escaped _ => 1

def run (texts : List String) : IO UInt32 := do
  let environment ← readEnvironment
  let peer : Peer ←
    if (Program.run texts environment {}).trace.isEmpty then
      pure {}
    else
      let incoming ← readIncoming (← IO.getStdin) .empty
      pure { incoming := [.ok incoming.toList] }
  let outcome := Program.run texts environment peer
  IO.print outcome.output
  IO.eprint (outcome.errorOutput (← stamp))
  if let .escaped cause := outcome.ending then
    IO.eprintln cause.message
  return status outcome.ending

end RawPost.Main

def main (texts : List String) : IO UInt32 :=
  RawPost.Main.run texts
