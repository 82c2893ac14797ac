import Swarm.Bencode.Decoding
import Swarm.Peer.Basic
import Swarm.Text.Utf8
import Swarm.Tracker.Request

/-!
What the tracker answers: peers, and how long to wait before asking again.

An answer outside the range of success says only that the tracker cannot be had; all others are
read from their body. A list of peers comes as records of six octets or as dictionaries; of the
latter, those that cannot be used are passed over.
-/

namespace Swarm.Tracker

open Bencode (Value DecodeError)

inductive Interval where
  | seconds (n : Nat)
  | never
deriving DecidableEq

structure Response where
  peers : List Peer
  interval : Interval
deriving DecidableEq

inductive ResponseFault where
  | notDictionary (kind : String)
  | missingInterval
  | negativeInterval (n : Int)
  | peersKind (kind : String)
deriving DecidableEq

def ResponseFault.message : ResponseFault → String
  | notDictionary kind => s!"expected dictionary, got {kind}"
  | missingInterval => "missing interval"
  | negativeInterval n => s!"negative interval {n}"
  | peersKind kind => s!"peers must be a byte string or list, got {kind}"

inductive TrackerError where
  | invalidUrl (url : String)
  | http (text : String)
  | malformed (cause : DecodeError)
  | refused (reason : String)
  | invalidResponse (fault : ResponseFault)
  | raggedPeers (length : Nat)
deriving DecidableEq

def TrackerError.message : TrackerError → String
  | invalidUrl url => s!"invalid announce url: {url}"
  | http text => s!"http error: {text}"
  | malformed cause => s!"bencode error: {cause.message}"
  | refused reason => s!"tracker returned failure: {reason}"
  | invalidResponse fault => s!"invalid response: {fault.message}"
  | raggedPeers length => s!"compact peer list length {length} is not a multiple of 6"

def TrackerError.chain : TrackerError → List String
  | malformed cause => [(malformed cause).message, cause.message]
  | e => [e.message]

namespace Response

/-- The answer of a tracker that cannot be had: no peers, and no time to ask again. -/
def unavailable : Response := ⟨[], .never⟩

def isUnavailable (r : Response) : Bool := r.interval == .never

def compactPeers (records : Bytes) : Except TrackerError (List Peer) :=
  if records.length % Peer.recordLength ≠ 0 then .error (.raggedPeers records.length)
  else .ok ((Bytes.records 6 (records.length / 6) records).map Peer.ofRecord)

def listedPeer? (entry : Value) : Option Peer := do
  let ip ← ((entry.get? (Bytes.ofText "ip")).bind Value.text?).bind IpAddress.ofText?
  let port ← (entry.get? (Bytes.ofText "port")).bind Value.word64?
  if port < 65536 then
    let id? := ((entry.get? (Bytes.ofText "peer id")).bind Value.bytes?).bind (Bytes.fixed? 20)
    some ⟨⟨ip, UInt16.ofNat port, 0⟩, id?⟩
  else none

def listedPeers (entries : List Value) : List Peer := entries.filterMap listedPeer?

def peersOf (answer : Value) : Except TrackerError (List Peer) :=
  match answer.get? (Bytes.ofText "peers") with
  | none => .ok []
  | some (.bytes records) => compactPeers records
  | some (.list entries) => .ok (listedPeers entries)
  | some other => .error (.invalidResponse (.peersKind other.kind))

/-- The number of seconds to wait, no more than 64 bits can hold. -/
def intervalOf (answer : Value) : Except TrackerError Nat :=
  match (answer.get? (Bytes.ofText "interval")).bind Value.int? with
  | none => .error (.invalidResponse .missingInterval)
  | some (.negSucc n) => .error (.invalidResponse (.negativeInterval (.negSucc n)))
  | some (.ofNat n) => .ok (min n (UInt64.size - 1))

def parse (body : Bytes) : Except TrackerError Response := do
  let answer ← (Bencode.decode body).mapError .malformed
  if answer.entries?.isNone then throw (.invalidResponse (.notDictionary answer.kind))
  if let some reason := answer.get? (Bytes.ofText "failure reason") then
    throw (.refused (Utf8.lossy (reason.bytes?.getD [])))
  let seconds ← intervalOf answer
  let peers ← peersOf answer
  return ⟨peers, .seconds seconds⟩

end Response

structure HttpReply where
  status : Nat
  body : Bytes

def HttpReply.isSuccess (r : HttpReply) : Bool := 200 ≤ r.status && r.status < 300

def Response.ofReply (reply : HttpReply) : Except TrackerError Response :=
  if reply.isSuccess then parse reply.body else .ok unavailable

/-- Announces to a tracker: `fetch` asks a web server for a URL, or fails with a text. -/
def announce {σ : Type} (fetch : String → σ → Except String HttpReply × σ) (url : String)
    (request : Request) (s : σ) : Except TrackerError Response × σ :=
  match request.url? url with
  | none => (.error (.invalidUrl url), s)
  | some target =>
    match fetch target s with
    | (.error text, s) => (.error (.http text), s)
    | (.ok reply, s) => (Response.ofReply reply, s)

end Swarm.Tracker
