import Swarm.Peer.Queue

/-!
Workers that wait for orders, and how they are woken.

A worker looks whether there is an order; if there is none it settles down and sleeps. A notice
wakes the worker that has slept longest; where nobody sleeps it is kept, one at most, and the next
worker that settles down uses it up and looks again. Who adds a single order gives a notice after
it, in a step of its own; who takes an order and leaves others, and who refills the queue, gives a
notice at once.
-/

namespace Swarm

structure WaitRoom where
  queue : Queue
  notice : Bool
  looking : List Nat
  /-- Workers that found no order and do not sleep yet. -/
  settling : List Nat
  /-- Workers that sleep, the longest first. -/
  asleep : List Nat
  /-- What workers have taken, the latest first. -/
  served : List (Nat × Order)
  /-- Notices that are yet to be given for orders that were added. -/
  owed : Nat

namespace WaitRoom

def notify (r : WaitRoom) : WaitRoom :=
  match r.asleep with
  | [] => { r with notice := true }
  | first :: rest => { r with asleep := rest, looking := r.looking ++ [first] }

def notifyIfAny (r : WaitRoom) : WaitRoom := if r.queue.isEmpty then r else r.notify

def add (r : WaitRoom) (order : Order) : WaitRoom :=
  { r with queue := r.queue.push order, owed := r.owed + 1 }

def payNotice (r : WaitRoom) : WaitRoom :=
  match r.owed with
  | 0 => r
  | owed + 1 => ({ r with owed := owed }).notify

def push (r : WaitRoom) (order : Order) : WaitRoom := (r.add order).payNotice

def take (r : WaitRoom) : Option Order × WaitRoom :=
  match r.queue.pop? with
  | none => (none, r)
  | some (order, queue) => (some order, ({ r with queue := queue }).notifyIfAny)

def refill (r : WaitRoom) (peers : List Peer) : WaitRoom :=
  ({ r with queue := r.queue.refill peers }).notifyIfAny

def enter (r : WaitRoom) (worker : Nat) : WaitRoom :=
  { r with looking := r.looking ++ [worker] }

def look (r : WaitRoom) (worker : Nat) : WaitRoom :=
  if r.looking.contains worker then
    let r := { r with looking := r.looking.erase worker }
    match r.take with
    | (none, r) => { r with settling := r.settling ++ [worker] }
    | (some order, r) => { r with served := (worker, order) :: r.served }
  else r

/-- A worker that found no order goes to sleep, unless a notice is kept for it. -/
def settle (r : WaitRoom) (worker : Nat) : WaitRoom :=
  if r.settling.contains worker then
    let r := { r with settling := r.settling.erase worker }
    if r.notice then { r with notice := false, looking := r.looking ++ [worker] }
    else { r with asleep := r.asleep ++ [worker] }
  else r

def advance? (r : WaitRoom) : Option WaitRoom :=
  match r.settling, r.looking with
  | worker :: _, _ => some (r.settle worker)
  | [], worker :: _ => some (r.look worker)
  | [], [] => none

/-- Lets the workers move until all sleep or have an order, the first argument bounding their
moves. -/
def rest : Nat → WaitRoom → WaitRoom
  | 0, r => r
  | budget + 1, r =>
    match r.advance? with
    | none => r
    | some r => rest budget r

/-- A bound on the moves of `n` workers: each takes at most one order, and looks once more for each
notice. -/
def moves (n : Nat) : Nat := 4 * n + 4

def ofSleepers (n : Nat) : WaitRoom :=
  rest (moves n) ⟨.empty, false, List.range n, [], [], [], 0⟩

end WaitRoom

end Swarm
