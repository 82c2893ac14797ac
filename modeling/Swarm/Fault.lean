import Swarm.Torrent.Descriptor
import Swarm.Tracker.Response

/-!
Faults as they are reported to the user: the area they belong to, what happened, what it happened
to, and what it came from. Errors of every part of the program convert to them.
-/

namespace Swarm

inductive FaultArea where
  | parse
  | protocol
  | storage
  | tracker
  | config
  | network
  | validation
deriving DecidableEq

namespace FaultArea

def all : List FaultArea := [parse, protocol, storage, tracker, config, network, validation]

theorem mem_all (area : FaultArea) : area ∈ all := by cases area <;> decide

def title : FaultArea → String
  | parse => "Parse error"
  | protocol => "Protocol error"
  | storage => "Storage error"
  | tracker => "Tracker error"
  | config => "Config error"
  | network => "Network error"
  | validation => "Validation error"

def subjectName : FaultArea → String
  | storage => "path"
  | tracker => "url"
  | network => "address"
  | _ => "field"

def hasSource : FaultArea → Bool
  | config | validation => false
  | _ => true

end FaultArea

structure Fault where
  area : FaultArea
  message : String
  subject : Option String
  source : Option String
deriving DecidableEq

namespace Fault

def text (f : Fault) : String :=
  let details := (f.subject.map fun s => s!"{f.area.subjectName}: {s}").toList ++
    (f.source.map fun s => s!"source: {s}").toList
  let detail := if details.isEmpty then "" else " (" ++ ", ".intercalate details ++ ")"
  s!"{f.area.title}: {f.message}{detail}"

/-- Adds to what a fault came from; areas without a source stay as they are. -/
def within (context : String) (f : Fault) : Fault :=
  if f.area.hasSource then
    { f with source := some ((f.source.map fun s => s!"{s}: {context}").getD context) }
  else f

def ofSystem (e : SystemError) : Fault := ⟨.storage, e.text, some "unknown", some e.kind.words⟩

def ofDecode (e : Bencode.DecodeError) : Fault :=
  ⟨.parse, "Failed to decode bencode data", none, some e.message⟩

def ofDescriptor (e : DescriptorError) : Fault :=
  ⟨.parse, "Invalid torrent descriptor", none, some e.message⟩

def ofTracker (e : Tracker.TrackerError) : Fault :=
  ⟨.tracker, "Announce failed", none, some e.message⟩

def ofHandshake (e : HandshakeError) : Fault :=
  ⟨.protocol, "Handshake failed", none, some e.message⟩

def ofWire (e : WireError) : Fault :=
  ⟨.protocol, "Peer violated the wire protocol", none, some e.message⟩

def ofUnknownPeer (label : String) : Fault :=
  ⟨.validation, "Peer is not registered with the piece manager", some label, none⟩

def badAddress : Fault :=
  ⟨.network, "Failed to parse address", some "unknown", some "invalid socket address syntax"⟩

def elapsed : Fault := ⟨.network, "Operation timed out", none, none⟩

end Fault

end Swarm
