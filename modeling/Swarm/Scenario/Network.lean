import Swarm.Peer.Worker
import Swarm.Scenario.Remote

/-!
A network held in memory: what is met at each address, and workers that go about in it.

At an address there is a sequence of other sides, one for each connection, of which the last is met
again and again. Some are met only after a number of announces.
-/

namespace Swarm.Scenario

structure Host where
  remote : Remote
  /-- How many announces have to be made before it can be met. -/
  afterAnnounces : Nat

inductive Call where
  | refused
  | waits
  | answered (remote : Remote)

structure Network where
  hosts : List (String × List Host)

namespace Network

def set (n : Network) (address : String) (hosts : List Host) : Network :=
  ⟨n.hosts.map fun h => if h.1 == address then (address, hosts) else h⟩

def call (n : Network) (address : String) (announces : Nat) : Call × Network :=
  match n.hosts.lookup address with
  | none | some [] => (.refused, n)
  | some (host :: more) =>
    if announces < host.afterAnnounces then (.waits, n)
    else (.answered host.remote, if more.isEmpty then n else n.set address more)

end Network

structure World where
  transfer : Transfer
  queue : Queue
  network : Network
  announces : Nat
  /-- The time, in nanoseconds. -/
  now : Nat
  /-- The connections that are over, the latest first, with what was written to them. -/
  calls : List (SocketAddress × List (Nat × Bytes))

structure Agent where
  worker : Worker
  connection : Option Connection
  stalledUntil : Option Nat

namespace Agent

def new : Agent := ⟨.new, none, none⟩

def timedOut (s : Session) : Bool :=
  match s.stage with
  | .leave _ (.error (.messageTimedOut ..)) | .ended _ (.error (.messageTimedOut ..))
  | .ended _ (.error (.handshakeTimedOut ..)) => true
  | _ => false

/-- One step on a connection. A peer that says nothing holds its worker up until the time for an
answer is over. -/
def serve (a : Agent) (c : Connection) (w : World) : Agent × World :=
  match c.session.result? with
  | some result =>
    (⟨a.worker.served result, none, none⟩,
      { w with calls := (c.session.peer.address, c.remote.log) :: w.calls })
  | none =>
    let (next, t) := c.step w.now w.transfer
    let stalled := a.stalledUntil.isNone && timedOut next.session && !timedOut c.session
    ({ a with
        connection := some next
        stalledUntil :=
          if stalled then some (w.now + c.session.readTimeout.toNanoseconds) else none },
      { w with transfer := t })

/-- One step of a worker; `none` if it has to wait. -/
def step (context : SessionContext) (a : Agent) (w : World) : Option (Agent × World) :=
  if a.stalledUntil.any (w.now < ·) then none
  else match a.worker.duty with
  | .done => none
  | .look => some ({ a with worker := a.worker.looked w.transfer.isComplete }, w)
  | .await =>
    w.queue.pop?.map fun (order, queue) =>
      ({ a with worker := a.worker.ordered order }, { w with queue := queue })
  | .dial peer =>
    match w.network.call peer.address.text w.announces with
    | (.waits, _) => none
    | (.refused, _) =>
      some ({ a with worker := a.worker.dialled false },
        { w with calls := (peer.address, []) :: w.calls })
    | (.answered remote, network) =>
      some (⟨a.worker.dialled true, some ⟨context.session peer, remote⟩, none⟩,
        { w with network := network })
  | .serve =>
    match a.connection with
    | none => some ({ a with worker := a.worker.dialled false }, w)
    | some c => some (a.serve c w)

def takesTransfer (s : Session) : Bool :=
  match s.stage with
  | .dialogue _ .fill => s.mayRequest
  | _ => s.want == .transfer

def wantsTransfer (a : Agent) (now : Nat) : Bool :=
  !a.stalledUntil.any (now < ·) &&
  match a.worker.duty, a.connection with
  | .look, _ => true
  | .serve, some c => c.session.result?.isNone && takesTransfer c.session
  | _, _ => false

def run (context : SessionContext) : Nat → Agent → World → Agent × World
  | 0, a, w => (a, w)
  | fuel + 1, a, w =>
    match a.step context w with
    | none => (a, w)
    | some (a, w) => run context fuel a w

end Agent

end Swarm.Scenario
