/-!
How far a session with a peer has come.
-/

namespace Swarm

inductive SessionState where
  | disconnected
  | handshaking
  | bitfieldExchange
  | interested
  | steady
  | closed
deriving DecidableEq

namespace SessionState

def all : List SessionState :=
  [disconnected, handshaking, bitfieldExchange, interested, steady, closed]

def text : SessionState → String
  | disconnected => "disconnected"
  | handshaking => "handshaking"
  | bitfieldExchange => "bitfield-exchange"
  | interested => "interested"
  | steady => "steady"
  | closed => "closed"

def rank : SessionState → Nat
  | disconnected => 0
  | handshaking => 1
  | bitfieldExchange => 2
  | interested => 3
  | steady => 4
  | closed => 5

def isConnected : SessionState → Bool
  | bitfieldExchange | interested | steady => true
  | _ => false

def canRequest : SessionState → Bool
  | steady => true
  | _ => false

end SessionState

end Swarm
