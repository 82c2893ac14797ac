import Swarm.Cli.Config
import Swarm.Cli.Display

/-!
What the program does with its arguments: it answers at once, or it needs a torrent file first.

With the file read it shows what the torrent describes and how it would be downloaded. Nothing here
touches the world: the file's content is an argument, and what is printed is a value.
-/

namespace Swarm.Cli

def ArgsFault.message : ArgsFault → String
  | help => "help was asked for"
  | unknownArgument => "an argument is not known"
  | missingValue => "an option is without its value"
  | invalidValue => "an option has a value that it cannot have"
  | repeated => "an option is given more than once"
  | excessValue => "an option has a value but takes none"
  | missingTorrent => "the torrent file is missing"

def usage : List String :=
  ["Usage: swarm [OPTIONS] <TORRENT_FILE>",
    "",
    "Options:",
    "  -o, --output-dir <DIR>         Download directory",
    "  -p, --port <PORT>              Port advertised to the tracker [default: 6881]",
    "  -m, --max-connections <COUNT>  Maximum number of registered peers [default: 50]",
    "  -w, --workers <COUNT>          Number of concurrent peer workers [default: 8]",
    "      --pipeline <COUNT>         Outstanding block requests per peer [default: 1]",
    "      --request-timeout <SECS>   Seconds before a block request is made again [default: 10]",
    "      --connect-timeout <SECS>   Seconds allowed for a connection to open [default: 10]",
    "      --read-timeout <SECS>      Seconds to wait for a peer message [default: 120]",
    "      --reannounce <SECS>        Seconds between announces without peers [default: 90]",
    "  -v, --verbose                  Verbose output",
    "  -q, --quiet                    No output except errors",
    "  -h, --help                     Print help"]

def printed (lines : List String) : String := String.join (lines.map (· ++ "\n"))

def overview (d : Descriptor) (c : Config) : List String :=
  let size := d.content.length
  ["Torrent Information:",
    s!"  Name: {d.content.name}",
    s!"  Size: {size} ({amountText size.toUInt64})",
    s!"  Pieces: {d.content.pieceCount}",
    s!"  Piece length: {amountText d.content.pieceLength.toUInt64}",
    s!"  Info hash: {d.infoHash.hex}",
    s!"  Tracker: {d.announce}",
    "",
    "Configuration:",
    s!"  Output directory: {c.outputDir}",
    s!"  Advertised port: {c.port}",
    s!"  Max peers: {c.maxConnections}",
    s!"  Workers: {c.workers}",
    s!"  Pipeline depth: {c.pipeline}",
    ""]

structure Reply where
  output : Output
  code : UInt32
deriving DecidableEq

namespace Reply

def misuse : UInt32 := 2

def help : Reply := ⟨⟨printed usage, ""⟩, 0⟩

def ofArgsFault (fault : ArgsFault) : Reply :=
  if fault = .help then help
  else ⟨⟨"", printed (("error: " ++ fault.message) :: "" :: usage.take 1)⟩, misuse⟩

def ofFailure (chain : List String) : Reply := ⟨Display.error (": ".intercalate chain), 1⟩

def ofTorrent (c : Config) (path : String) (data : Option Bytes) : Reply :=
  match Descriptor.load path data with
  | .error e => ofFailure e.chain
  | .ok d => ⟨⟨if c.quiet then "" else printed (overview d c), ""⟩, 0⟩

end Reply

inductive Command where
  | answer (reply : Reply)
  | inspect (torrent : String) (config : Config)

def Command.parse (arguments : List String) : Command :=
  match Args.parse arguments with
  | .error fault => .answer (.ofArgsFault fault)
  | .ok a =>
    let config := Config.ofArgs a
    match config.defect? with
    | some defect => .answer (.ofFailure ["Invalid configuration", defect.fault.text])
    | none => .inspect a.torrent config

end Swarm.Cli
