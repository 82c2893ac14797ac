import Swarm.Cli.Command

/-!
The program: it hands its arguments to `Cli.Command.parse`, reads the torrent file if that asks for
one, and prints the reply.
-/

namespace Swarm.Cli

def Output.print (o : Output) : IO Unit := do
  IO.print o.standard
  IO.eprint o.error

def fileContent? (path : String) : IO (Option Bytes) := do
  try
    return some (← IO.FS.readBinFile path).data.toList
  catch _ => return none

end Swarm.Cli

open Swarm.Cli in
def main (arguments : List String) : IO UInt32 := do
  let reply ← match Command.parse arguments with
    | .answer reply => pure reply
    | .inspect torrent config => pure (Reply.ofTorrent config torrent (← fileContent? torrent))
  reply.output.print
  return reply.code
