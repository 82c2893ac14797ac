import Swarm.Transfer.Deliver

/-!
A transfer fed straight from the data it is after: each block that it asks a peer for arrives at
once and unchanged.
-/

namespace Swarm.Transfer

open Storage (DiskOutcome)

structure Feeding where
  answered : List (BlockRequest × Except TransferError Delivery)
  failure : Option TransferError
  transfer : Transfer

def blockOf (t : Transfer) (data : Bytes) (r : BlockRequest) : Bytes :=
  (data.drop (t.content.pieceOffset r.piece + r.offset)).take r.length

/-- Answers the requests made of a peer, `n` of them at most, until there is no request or a block
is refused. -/
def feed (data : Bytes) (peer : PeerId) : Nat → Transfer → Feeding
  | 0, t => ⟨[], none, t⟩
  | n + 1, t =>
    match t.pick peer 0 with
    | (.error e, t) => ⟨[], some e, t⟩
    | (.ok none, t) => ⟨[], none, t⟩
    | (.ok (some r), t) =>
      match t.deliver r.piece r.offset (t.blockOf data r) .smooth with
      | (.error e, t) => ⟨[(r, .error e)], none, t⟩
      | (.ok d, t) =>
        let more := feed data peer n t
        { more with answered := (r, .ok d) :: more.answered }

end Swarm.Transfer
