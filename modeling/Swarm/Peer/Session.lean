import Swarm.Duration
import Swarm.Peer.State
import Swarm.Transfer.Deliver
import Swarm.Peer.Basic
import Swarm.Wire.Stream

/-!
A session with one peer, from the handshake to the end of the connection.

A session is a machine that always waits for exactly one thing, `Session.want`: for octets to be
sent, for the peer's handshake or next message, or for its turn with the transfer that it shares
with other sessions. Each of these has a step. What the outside world does is an argument of the
step, so any interleaving of sessions and any behaviour of a peer is a sequence of steps.

A session that has registered its peer ends its registration before it ends itself.
-/

namespace Swarm

open Storage (DiskOutcome)

inductive SessionError where
  | handshake (error : HandshakeError)
  | handshakeTimedOut (peer : SocketAddress)
  | messageTimedOut (peer : SocketAddress) (limit : Duration)
  | stream (cause : SystemError)
  | wire (error : WireError)
  | send (kind : MessageKind) (peer : SocketAddress) (cause : SystemError)
  | transfer (error : TransferError)
deriving DecidableEq

namespace SessionError

def deadlineElapsed : String := "deadline has elapsed"

def chain : SessionError → List String
  | handshake error => error.chain
  | handshakeTimedOut peer => [s!"handshake with {peer.text} timed out", deadlineElapsed]
  | messageTimedOut peer limit =>
    [s!"no message from {peer.text} within {limit.briefText}", deadlineElapsed]
  | stream cause => [cause.text]
  | wire error => [error.message]
  | send kind peer cause => [s!"failed to send {kind.name} to {peer.text}", cause.text]
  | transfer error => [error.message]

end SessionError

inductive Dialogue where
  | awaitBitfield
  | register (bits : Bytes)
  | sendInterested
  | checkComplete
  | awaitMessage
  | addPiece (piece : Nat)
  | deliver (piece offset : Nat) (block : Bytes)
  | fill
  | sendRequest (request : BlockRequest)
deriving DecidableEq

def Dialogue.isRegistered : Dialogue → Bool
  | awaitBitfield | register _ => false
  | _ => true

inductive Stage where
  | idle
  | sendHandshake
  | awaitHandshake
  | dialogue (remote : PeerId) (d : Dialogue)
  | leave (remote : PeerId) (result : Except SessionError Unit)
  | ended (remote : Option PeerId) (result : Except SessionError Unit)

structure Session where
  peer : Peer
  infoHash : Digest
  ownId : PeerId
  /-- How many requests may be out at a time. -/
  pipeline : Nat
  /-- How long to wait for the peer; shown in messages only. -/
  readTimeout : Duration
  stage : Stage
  choked : Bool
  inFlight : Nat

inductive Want where
  | send (octets : Bytes)
  | handshake
  | message
  | transfer
  | nothing
deriving DecidableEq

namespace Session

def new (peer : Peer) (infoHash : Digest) (ownId : PeerId) (pipeline : Nat)
    (readTimeout : Duration) : Session :=
  ⟨peer, infoHash, ownId, pipeline, readTimeout, .idle, true, 0⟩

def start (s : Session) : Session :=
  match s.stage with
  | .idle => { s with stage := .sendHandshake }
  | _ => s

def state (s : Session) : SessionState :=
  match s.stage with
  | .idle => .disconnected
  | .sendHandshake | .awaitHandshake => .handshaking
  | .dialogue _ .awaitBitfield | .dialogue _ (.register _) => .bitfieldExchange
  | .dialogue _ .sendInterested => .interested
  | .dialogue .. => .steady
  | .leave .. | .ended .. => .closed

def remoteId? (s : Session) : Option PeerId :=
  match s.stage with
  | .dialogue remote _ | .leave remote _ => some remote
  | .ended remote _ => remote
  | _ => none

def isRegistered (s : Session) : Bool :=
  match s.stage with
  | .dialogue _ d => d.isRegistered
  | .leave .. => true
  | _ => false

def result? (s : Session) : Option (Except SessionError Unit) :=
  match s.stage with
  | .ended _ result => some result
  | _ => none

def requestMessage (r : BlockRequest) : Message :=
  .request (UInt32.ofNat r.piece) (UInt32.ofNat r.offset) (UInt32.ofNat r.length)

def want (s : Session) : Want :=
  match s.stage with
  | .idle | .ended .. => .nothing
  | .sendHandshake => .send (Handshake.plain s.infoHash s.ownId).encode
  | .awaitHandshake => .handshake
  | .dialogue _ .awaitBitfield | .dialogue _ .awaitMessage => .message
  | .dialogue _ .sendInterested => .send Message.interested.frame
  | .dialogue _ (.sendRequest r) => .send (requestMessage r).frame
  | .dialogue .. | .leave .. => .transfer

def go (s : Session) (remote : PeerId) (d : Dialogue) : Session :=
  { s with stage := .dialogue remote d }

/-- Ends a session that has met its peer; a registration has to be ended first. -/
def finish (s : Session) (remote : PeerId) (result : Except SessionError Unit) : Session :=
  if s.isRegistered then { s with stage := .leave remote result }
  else { s with stage := .ended (some remote) result }

def giveUp (s : Session) (error : SessionError) : Session :=
  { s with stage := .ended none (.error error) }

def sent (s : Session) (failure : Option SystemError) : Session :=
  match s.stage, failure with
  | .sendHandshake, none => { s with stage := .awaitHandshake }
  | .sendHandshake, some e => s.giveUp (.handshake (.system e))
  | .dialogue remote .sendInterested, none => s.go remote .checkComplete
  | .dialogue remote .sendInterested, some e =>
    s.finish remote (.error (.send .interested s.peer.address e))
  | .dialogue remote (.sendRequest _), none =>
    { s with stage := .dialogue remote .fill, inFlight := s.inFlight + 1 }
  | .dialogue remote (.sendRequest _), some e =>
    s.finish remote (.error (.send .request s.peer.address e))
  | _, _ => s

def greeted (s : Session) (reply : Except HandshakeFault Handshake) : Session :=
  match s.stage with
  | .awaitHandshake =>
    match reply with
    | .error .timedOut => s.giveUp (.handshakeTimedOut s.peer.address)
    | .error (.failed e) => s.giveUp (.handshake e)
    | .ok h =>
      match h.check s.infoHash with
      | .error e => s.giveUp (.handshake e)
      | .ok () => s.go h.peerId .awaitBitfield
  | _ => s

def messageError (s : Session) : MessageFault → SessionError
  | .timedOut => .messageTimedOut s.peer.address s.readTimeout
  | .system cause => .stream cause
  | .wire error => .wire error

/-- Takes in the first messages: nothing but the set of the peer's pieces counts. -/
def opened (s : Session) (remote : PeerId) : Message → Session
  | .keepAlive => s
  | .bitfield bits => s.go remote (.register bits)
  | other => s.finish remote (.error (.wire (.unexpected .bitfield other.kind)))

def told (s : Session) (remote : PeerId) : Message → Session
  | .keepAlive => s.go remote .fill
  | .choke => { s with stage := .dialogue remote .fill, choked := true, inFlight := 0 }
  | .unchoke => { s with stage := .dialogue remote .fill, choked := false }
  | .have i => s.go remote (.addPiece i.toNat)
  | .piece i start block =>
    { s with stage := .dialogue remote (.deliver i.toNat start.toNat block),
             inFlight := s.inFlight - 1 }
  | other => s.finish remote (.error (.wire (.unsupported other.kind)))

def received (s : Session) (reply : Except MessageFault Message) : Session :=
  match s.stage, reply with
  | .dialogue remote .awaitBitfield, .ok m => s.opened remote m
  | .dialogue remote .awaitMessage, .ok m => s.told remote m
  | .dialogue remote .awaitBitfield, .error fault
  | .dialogue remote .awaitMessage, .error fault => s.finish remote (.error (s.messageError fault))
  | _, _ => s

def proceed {α : Type} (s : Session) (remote : PeerId) (outcome : Except TransferError α) :
    Session :=
  match outcome with
  | .error e => s.finish remote (.error (.transfer e))
  | .ok _ => s.go remote .fill

def mayRequest (s : Session) : Bool := !s.choked && s.inFlight < s.pipeline

def turn (s : Session) (t : Transfer) (now : Nat) (disk : DiskOutcome) : Session × Transfer :=
  match s.stage with
  | .dialogue remote (.register bits) =>
    match t.register remote bits with
    | (true, t) => (s.go remote .sendInterested, t)
    | (false, t) => (s.finish remote (.ok ()), t)
  | .dialogue remote .checkComplete =>
    if t.isComplete then (s.finish remote (.ok ()), t) else (s.go remote .awaitMessage, t)
  | .dialogue remote (.addPiece i) =>
    let (outcome, t) := t.addPiece remote i
    (s.proceed remote outcome, t)
  | .dialogue remote (.deliver i offset block) =>
    let (outcome, t) := t.deliver i offset block disk
    (s.proceed remote outcome, t)
  | .dialogue remote .fill =>
    if s.mayRequest then
      match t.pick remote now with
      | (.error e, t) => (s.finish remote (.error (.transfer e)), t)
      | (.ok none, t) => (s.go remote .checkComplete, t)
      | (.ok (some r), t) => (s.go remote (.sendRequest r), t)
    else (s.go remote .checkComplete, t)
  | .leave remote result =>
    ({ s with stage := .ended (some remote) result }, (t.unregister remote).2)
  | _ => (s, t)

end Session

end Swarm
