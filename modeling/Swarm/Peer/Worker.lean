import Swarm.Peer.Queue
import Swarm.Peer.Session

/-!
A worker: takes orders one after the other, holds a session with each peer it is sent to, and counts
those that end well. It ends when the download is complete or it is told to stop; whether the
download is complete is looked at before every order.
-/

namespace Swarm

structure SessionContext where
  infoHash : Digest
  ownId : PeerId
  pipeline : Nat
  readTimeout : Duration

def SessionContext.session (c : SessionContext) (peer : Peer) : Session :=
  (Session.new peer c.infoHash c.ownId c.pipeline c.readTimeout).start

inductive Duty where
  | look
  | await
  | dial (peer : Peer)
  | serve
  | done
deriving DecidableEq

structure Worker where
  duty : Duty
  /-- The number of sessions that ended well. -/
  completed : Nat
deriving DecidableEq

namespace Worker

def new : Worker := ⟨.look, 0⟩

def looked (w : Worker) (complete : Bool) : Worker :=
  { w with duty := if complete then .done else .await }

def ordered (w : Worker) : Order → Worker
  | .stop => { w with duty := .done }
  | .connect peer => { w with duty := .dial peer }

def dialled (w : Worker) (connected : Bool) : Worker :=
  { w with duty := if connected then .serve else .look }

def served (w : Worker) (result : Except SessionError Unit) : Worker :=
  match result with
  | .ok () => ⟨.look, w.completed + 1⟩
  | .error _ => { w with duty := .look }

end Worker

end Swarm
