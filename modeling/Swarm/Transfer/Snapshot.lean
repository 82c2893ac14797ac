/-!
What is counted of a download at one moment.
-/

namespace Swarm

structure Snapshot where
  finishedPieces : Nat
  totalPieces : Nat
  downloaded : UInt64
  total : UInt64
  peers : Nat
  maxPeers : Nat
deriving DecidableEq

namespace Snapshot

/-- The part that is done; all of it where there is nothing to do. -/
def progress (s : Snapshot) : Float :=
  if s.total = 0 then 1.0 else s.downloaded.toFloat / s.total.toFloat

def isComplete (s : Snapshot) : Bool := s.finishedPieces == s.totalPieces

end Snapshot

end Swarm
