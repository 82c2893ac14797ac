import Swarm.Peer.Basic

/-!
The queue from which workers take their orders: peers to connect to, and calls to stop.

Orders leave in the order in which they stand. New peers take the place of those that wait; calls to
stop are never taken back.
-/

namespace Swarm

inductive Order where
  | connect (peer : Peer)
  | stop
deriving DecidableEq

def Order.isStop : Order → Bool
  | stop => true
  | connect _ => false

structure Queue where
  orders : List Order
deriving DecidableEq

namespace Queue

def empty : Queue := ⟨[]⟩

def isEmpty (q : Queue) : Bool := q.orders.isEmpty

def push (q : Queue) (order : Order) : Queue := ⟨q.orders ++ [order]⟩

def pop? (q : Queue) : Option (Order × Queue) :=
  match q.orders with
  | [] => none
  | order :: rest => some (order, ⟨rest⟩)

/-- Puts peers in place of those that wait, behind the calls to stop. -/
def refill (q : Queue) (peers : List Peer) : Queue :=
  ⟨q.orders.filter Order.isStop ++ peers.map .connect⟩

end Queue

end Swarm
