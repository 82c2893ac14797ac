import Swarm.Address
import Swarm.Wire.Handshake

/-!
A peer as the tracker names it: where it listens, and the id it is said to have.
-/

namespace Swarm

structure Peer where
  address : SocketAddress
  id? : Option PeerId
deriving DecidableEq

namespace Peer

def recordLength : Nat := 6

def ofRecord : Bytes → Peer
  | [a, b, c, d, high, low] => ⟨⟨.v4 ⟨a, b, c, d⟩, BigEndian.decode16 high low, 0⟩, none⟩
  | _ => ⟨⟨.v4 ⟨0, 0, 0, 0⟩, 0, 0⟩, none⟩

end Peer

end Swarm
