import Swarm.Sha1
import Swarm.SystemError

/-!
What can be wrong with what a peer sends.
-/

namespace Swarm

inductive MessageKind where
  | keepAlive
  | choke
  | unchoke
  | interested
  | notInterested
  | have
  | bitfield
  | request
  | piece
  | cancel
  | port
deriving DecidableEq

namespace MessageKind

def all : List MessageKind :=
  [keepAlive, choke, unchoke, interested, notInterested, .have, bitfield, request, piece, cancel,
    port]

def name : MessageKind → String
  | keepAlive => "KEEP_ALIVE"
  | choke => "CHOKE"
  | unchoke => "UNCHOKE"
  | interested => "INTERESTED"
  | notInterested => "NOT_INTERESTED"
  | .have => "HAVE"
  | bitfield => "BITFIELD"
  | request => "REQUEST"
  | piece => "PIECE"
  | cancel => "CANCEL"
  | port => "PORT"

/-- The octet that introduces a message of this kind; a keep-alive is empty and has none. -/
def octet? : MessageKind → Option UInt8
  | keepAlive => none
  | choke => some 0
  | unchoke => some 1
  | interested => some 2
  | notInterested => some 3
  | .have => some 4
  | bitfield => some 5
  | request => some 6
  | piece => some 7
  | cancel => some 8
  | port => some 9

def ofOctet? (octet : UInt8) : Option MessageKind := all.find? (·.octet? == some octet)

end MessageKind

inductive WireError where
  | invalidOctet (octet : UInt8)
  | framedTooShort (actual : Nat)
  | tooShort (kind : MessageKind) (expected actual : Nat)
  | tooLarge (length : Nat)
  | lengthMismatch (declared actual : Nat)
  | unexpected (expected received : MessageKind)
  | unsupported (received : MessageKind)
  | unsolicitedBlock (piece : Nat)
  | unknownBlock (piece offset : Nat)
  | blockLength (piece offset expected actual : Nat)
  | pieceOutOfRange (piece : Nat)
deriving DecidableEq

def WireError.message : WireError → String
  | invalidOctet octet => s!"invalid message id {octet.toNat}"
  | framedTooShort actual => s!"framed message too short: expected 4 payload bytes, got {actual}"
  | tooShort kind expected actual =>
    s!"{kind.name} message too short: expected {expected} payload bytes, got {actual}"
  | tooLarge length => s!"frame of {length} bytes exceeds the maximum frame length"
  | lengthMismatch declared actual =>
    s!"frame length prefix {declared} does not match {actual} bytes"
  | unexpected expected received =>
    s!"expected {expected.name} message, received {received.name}"
  | unsupported received => s!"unsupported message {received.name} for a download-only client"
  | unsolicitedBlock piece =>
    s!"received block for piece {piece} which is not being downloaded"
  | unknownBlock piece offset => s!"piece {piece} has no block at offset {offset}"
  | blockLength piece offset expected actual =>
    s!"block {piece}/{offset} should be {expected} bytes, got {actual}"
  | pieceOutOfRange piece => s!"piece index {piece} is out of range"

inductive HandshakeError where
  | noResponse
  | otherProtocol (nameLength : UInt8)
  | otherContent (expected received : Digest)
  | system (cause : SystemError)
deriving DecidableEq

def HandshakeError.message : HandshakeError → String
  | noResponse => "no handshake response from peer"
  | otherProtocol nameLength =>
    s!"peer does not speak the BitTorrent protocol (pstrlen {nameLength.toNat})"
  | otherContent expected received =>
    s!"info hash mismatch: expected {expected.hex}, peer sent {received.hex}"
  | system cause => s!"handshake i/o failed: {cause.text}"

def HandshakeError.chain : HandshakeError → List String
  | system cause => [(system cause).message, cause.text]
  | e => [e.message]

end Swarm
