import Swarm.Transfer.Basic

/-!
Which block a peer is asked for next.

A request that has waited too long is made again first. Then the pieces that were begun are gone
through in order, and the first block of them that nobody was asked for is taken. Only then a new
piece is begun: the one that the fewest peers have, and of those the first.
-/

namespace Swarm.Transfer

def canReissue (t : Transfer) (bits : Bytes) (now : Nat) (r : OpenRequest) : Bool :=
  Bitfield.has bits r.request.piece && t.requestTimeout ≤ now - r.issuedAt

def modifyPiece (t : Transfer) (i : Nat) (f : Piece → Piece) : Transfer :=
  { t with pieces := t.pieces.modify i f }

def reissue (t : Transfer) (now k : Nat) (r : OpenRequest) : BlockRequest × Transfer :=
  (r.request,
    { t.modifyPiece r.request.piece (·.markRequested r.request.offset) with
      openRequests := t.openRequests.set k { r with issuedAt := now } })

def takeBlock? (t : Transfer) (now i : Nat) : Option (BlockRequest × Transfer) :=
  match t.pieces[i]? with
  | none => none
  | some piece =>
    match piece.takeMissing with
    | none => none
    | some (request, piece) =>
      some (request, { t with
        pieces := t.pieces.set i piece
        openRequests := t.openRequests ++ [⟨request, now⟩] })

def holders (t : Transfer) (i : Nat) : Nat := (t.peers.filter fun p => Bitfield.has p.2 i).length

def rarer (t : Transfer) (i j : Nat) : Nat := if t.holders j < t.holders i then j else i

def rarest? (t : Transfer) : List Nat → Option Nat
  | [] => none
  | i :: rest => some (rest.foldl t.rarer i)

def nextPiece? (t : Transfer) (bits : Bytes) : Option Nat :=
  t.rarest? (t.missing.filter (Bitfield.has bits))

def startPiece (t : Transfer) (i : Nat) : Transfer :=
  { t with missing := t.missing.erase i, ongoing := t.ongoing ++ [i] }

def takeOngoing? (t : Transfer) (bits : Bytes) (now : Nat) : Option (BlockRequest × Transfer) :=
  (t.ongoing.filter (Bitfield.has bits)).findSome? (t.takeBlock? now)

def takeNew (t : Transfer) (bits : Bytes) (now : Nat) : Option BlockRequest × Transfer :=
  match t.nextPiece? bits with
  | none => (none, t)
  | some i =>
    let begun := t.startPiece i
    match begun.takeBlock? now i with
    | none => (none, begun)
    | some (request, t) => (some request, t)

def pick (t : Transfer) (peer : PeerId) (now : Nat) :
    Except TransferError (Option BlockRequest) × Transfer :=
  match t.bitfield? peer with
  | none => (.error (.unknownPeer peer), t)
  | some bits =>
    match t.openRequests.findIdx? (t.canReissue bits now) with
    | some k =>
      match t.openRequests[k]? with
      | some r =>
        let (request, t) := t.reissue now k r
        (.ok (some request), t)
      | none => (.ok none, t)
    | none =>
      match t.takeOngoing? bits now with
      | some (request, t) => (.ok (some request), t)
      | none =>
        let (request, t) := t.takeNew bits now
        (.ok request, t)

end Swarm.Transfer
