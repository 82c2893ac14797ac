import Swarm.Transfer.Pick

/-!
What becomes of a block that arrives.

A block is taken only for a piece that was begun. The block that completes its piece decides about
it: a piece with the right digest is written to the file and is done, one with another digest is
begun again, and so is one that the disk does not take.
-/

namespace Swarm

open Storage (DiskOutcome)

inductive Delivery where
  | stored
  | verified
  | rejected
  | alreadyFinished
deriving DecidableEq

namespace Transfer

def dropPiece (i : Nat) (requests : List OpenRequest) : List OpenRequest :=
  requests.filter (·.request.piece != i)

def dropBlock (i offset : Nat) (requests : List OpenRequest) : List OpenRequest :=
  requests.filter fun r => !(r.request.piece == i && r.request.offset == offset)

def restart (t : Transfer) (i : Nat) : Transfer :=
  { t.modifyPiece i Piece.reset with openRequests := dropPiece i t.openRequests }

def finish (t : Transfer) (i size : Nat) : Transfer :=
  { t.modifyPiece i Piece.release with
    ongoing := t.ongoing.filter (· != i)
    finished := i :: t.finished
    downloaded := t.downloaded + size }

def commit (t : Transfer) (i : Nat) (data : Bytes) (disk : DiskOutcome) :
    Except TransferError Delivery × Transfer :=
  match t.file.writeAt disk (i * t.content.pieceLength) data with
  | (.error e, file) => (.error (.storage e), ({ t with file := file }).restart i)
  | (.ok (), file) =>
    let t := ({ t with file := file }).finish i data.length
    if t.isComplete then
      match t.file.sync disk with
      | .error e => (.error (.storage e), t)
      | .ok () => (.ok .verified, t)
    else (.ok .verified, t)

def accept (t : Transfer) (i offset : Nat) (piece : Piece) (disk : DiskOutcome) :
    Except TransferError Delivery × Transfer :=
  let t := { t with
    pieces := t.pieces.set i piece
    openRequests := dropBlock i offset t.openRequests }
  if ¬ piece.isComplete then (.ok .stored, t)
  else if ¬ piece.hashMatches then (.ok .rejected, t.restart i)
  else t.commit i piece.data disk

def deliver (t : Transfer) (i offset : Nat) (data : Bytes) (disk : DiskOutcome) :
    Except TransferError Delivery × Transfer :=
  if t.finished.contains i then
    (.ok .alreadyFinished, { t with openRequests := dropPiece i t.openRequests })
  else if ¬ t.ongoing.contains i then (.error (.wire (.unsolicitedBlock i)), t)
  else match t.pieces[i]? with
    | none => (.error (.wire (.unsolicitedBlock i)), t)
    | some piece =>
      match piece.receive offset data with
      | .error e => (.error (.wire e), t)
      | .ok piece => t.accept i offset piece disk

end Transfer

end Swarm
