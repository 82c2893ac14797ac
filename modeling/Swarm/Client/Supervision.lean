import Swarm.Torrent.Descriptor
import Swarm.Tracker.Response
import Swarm.Transfer.Basic

/-!
How a download is supervised: what is reported to the tracker, when it is asked again, and when the
download is over.

The supervisor looks at the download from time to time. It asks the tracker again when the interval
that the last answer gave is over, or when the queue has run dry and a shorter time of its own is
over. Only an answer with peers changes the queue. After an answer that brought nothing, no
interval counts.
-/

namespace Swarm.Client

open Tracker (Request Response Interval TrackerError)

def report (d : Descriptor) (ownId : PeerId) (port : UInt16) (left downloaded : Nat) : Request where
  infoHash := d.infoHash
  peerId := ownId
  port := port
  uploaded := 0
  downloaded := UInt64.ofNat downloaded
  left := UInt64.ofNat left
  compact := true

/-- An announce on its way. It has a turn with the transfer to read what is left, and another one to
read what is done; in between others may have theirs. -/
inductive Announcing where
  | begun
  | leftRead (left : Nat)
  | bothRead (left downloaded : Nat)
deriving DecidableEq

def Announcing.read (a : Announcing) (t : Transfer) : Announcing :=
  match a with
  | begun => leftRead t.bytesLeft
  | leftRead left => bothRead left t.downloaded
  | bothRead .. => a

/-- What the supervisor remembers. Times are in nanoseconds. -/
structure Supervisor where
  announcedAt : Nat
  interval : Interval
  reannounce : Nat

structure Sight where
  now : Nat
  complete : Bool
  idle : Bool
  queueEmpty : Bool

inductive Decision where
  | finished
  | abandoned
  | wait
  | announce
deriving DecidableEq

namespace Supervisor

def isOver (elapsed : Nat) : Interval → Bool
  | .never => false
  | .seconds n => n * 1000000000 ≤ elapsed

def decide (s : Supervisor) (sight : Sight) : Decision :=
  let elapsed := sight.now - s.announcedAt
  if sight.complete then .finished
  else if sight.idle then .abandoned
  else if isOver elapsed s.interval || (sight.queueEmpty && s.reannounce ≤ elapsed) then .announce
  else .wait

def answered (s : Supervisor) (now : Nat) (answer : Except TrackerError Response) :
    Supervisor × Option (List Peer) :=
  match answer with
  | .error _ => ({ s with announcedAt := now, interval := .never }, none)
  | .ok r =>
    ({ s with announcedAt := now, interval := r.interval },
      if r.isUnavailable || r.peers.isEmpty then none else some r.peers)

end Supervisor

inductive DownloadError where
  | storage (error : Storage.StorageError)
  | tracker (error : TrackerError)
  | noPeers
  | abandoned
deriving DecidableEq

def DownloadError.chain : DownloadError → List String
  | storage error => [error.fault.text]
  | tracker error => error.chain
  | noPeers => ["no peers available"]
  | abandoned => ["all workers exited before the download completed"]

end Swarm.Client
