import Swarm.Piece
import Swarm.Storage.OutputFile
import Swarm.Torrent.Descriptor
import Swarm.Transfer.Bitfield
import Swarm.Transfer.Snapshot
import Swarm.Wire.Handshake

/-!
The shared state of one download.

Each piece is in one of three pools: nothing was asked of it yet, some of it was, or it is done and
on disk. The peers that may be asked are registered with the set of pieces they have. Every request
that is out is kept with the time it was made, so that it can be made again when it has waited too
long.

Times are natural numbers on one clock, in nanoseconds.
-/

namespace Swarm

open Storage (OutputFile StorageError DiskOutcome)

structure OpenRequest where
  request : BlockRequest
  issuedAt : Nat
deriving DecidableEq

structure Transfer where
  content : Content
  maxPeers : Nat
  /-- How long a request may be out before it is made again. -/
  requestTimeout : Nat
  pieces : List Piece
  /-- The pieces that nothing was asked of, in ascending order. -/
  missing : List Nat
  /-- The pieces that something was asked of, in the order in which they were begun. -/
  ongoing : List Nat
  /-- The pieces that are done, the latest first. -/
  finished : List Nat
  /-- The peers that may be asked, with the sets of pieces they have. -/
  peers : List (PeerId × Bytes)
  /-- The requests that are out, in the order in which they were first made. -/
  openRequests : List OpenRequest
  downloaded : Nat
  file : OutputFile

inductive TransferError where
  | unknownPeer (peer : PeerId)
  | wire (error : WireError)
  | storage (error : StorageError)
deriving DecidableEq

def TransferError.message : TransferError → String
  | unknownPeer peer => s!"peer {peer.label} is not registered"
  | wire error => error.message
  | storage error => error.fault.text

def TransferError.fault : TransferError → Fault
  | unknownPeer peer => Fault.ofUnknownPeer peer.label
  | wire error => Fault.ofWire error
  | storage error => error.fault

namespace Transfer

def standardRequestTimeout : Nat := 10 * 1000000000

def emptyPieces (c : Content) : List Piece :=
  c.hashes.mapIdx fun i hash => Piece.empty i (c.sizeAt i) hash

def start (c : Content) (maxPeers requestTimeout : Nat) (file : OutputFile) : Transfer where
  content := c
  maxPeers := maxPeers
  requestTimeout := requestTimeout
  pieces := emptyPieces c
  missing := List.range c.pieceCount
  ongoing := []
  finished := []
  peers := []
  openRequests := []
  downloaded := 0
  file := file

def totalPieces (t : Transfer) : Nat := t.content.pieceCount

def totalBytes (t : Transfer) : Nat := t.content.length

def isComplete (t : Transfer) : Bool := t.finished.length == t.totalPieces

def bytesLeft (t : Transfer) : Nat := t.totalBytes - t.downloaded

def bitfield? (t : Transfer) (peer : PeerId) : Option Bytes := t.peers.lookup peer

def isRegistered (t : Transfer) (peer : PeerId) : Bool := (t.bitfield? peer).isSome

def putPeer (peer : PeerId) (bits : Bytes) (peers : List (PeerId × Bytes)) :
    List (PeerId × Bytes) :=
  (peer, bits) :: peers.filter (·.1 != peer)

/-- Registers a peer with the set of pieces it has; a peer that was registered gets the new set.
Refused if the peer is new and there is no room. -/
def register (t : Transfer) (peer : PeerId) (bits : Bytes) : Bool × Transfer :=
  if ¬ t.isRegistered peer ∧ t.maxPeers ≤ t.peers.length then (false, t)
  else (true, { t with peers := putPeer peer bits t.peers })

/-- Ends the registration of a peer. Once the download is complete, peers that are not registered
may be removed as well. -/
def unregister (t : Transfer) (peer : PeerId) : Except TransferError Unit × Transfer :=
  if t.isComplete ∨ t.isRegistered peer then
    (.ok (), { t with peers := t.peers.filter (·.1 != peer) })
  else (.error (.unknownPeer peer), t)

def addPiece (t : Transfer) (peer : PeerId) (piece : Nat) : Except TransferError Unit × Transfer :=
  if t.totalPieces ≤ piece then (.error (.wire (.pieceOutOfRange piece)), t)
  else match t.bitfield? peer with
    | none => (.error (.unknownPeer peer), t)
    | some bits =>
      (.ok (), { t with peers := putPeer peer (Bitfield.insert bits piece) t.peers })

def snapshot (t : Transfer) : Snapshot where
  finishedPieces := t.finished.length
  totalPieces := t.totalPieces
  downloaded := UInt64.ofNat t.downloaded
  total := UInt64.ofNat t.totalBytes
  peers := t.peers.length
  maxPeers := t.maxPeers

end Transfer

end Swarm
