import Swarm.Wire.Message
import Swarm.Wire.Handshake

/-!
Reading handshakes and messages from a stream of octets.

A stream is known only by how it is read: `Reader σ` takes the number of octets that are wanted and
a state, and gives exactly that many octets or the reason why they did not come, with the state
after the attempt. So the same reader serves octets held in memory and a connection whose reads
have effects.
-/

namespace Swarm

/-- The largest body of a frame that is accepted, four mebibytes. -/
def maxFrameLength : Nat := 4 * 1024 * 1024

inductive ReadFault where
  | timedOut
  | system (cause : SystemError)
deriving DecidableEq

inductive HandshakeFault where
  | timedOut
  | failed (error : HandshakeError)
deriving DecidableEq

inductive MessageFault where
  | timedOut
  | system (cause : SystemError)
  | wire (error : WireError)
deriving DecidableEq

def MessageFault.ofRead : ReadFault → MessageFault
  | .timedOut => timedOut
  | .system cause => system cause

/-- A stream that ends before a handshake is complete has not answered. -/
def HandshakeFault.ofRead : ReadFault → HandshakeFault
  | .timedOut => timedOut
  | .system cause =>
    failed (if cause.kind = .unexpectedEnd then .noResponse else .system cause)

abbrev Reader (σ : Type) := Nat → σ → Except ReadFault Bytes × σ

namespace Reader

/-- Reads octets held in memory; reading beyond them uses them up. -/
def ofBytes : Reader Bytes := fun n b =>
  match Bytes.split? n b with
  | none => (.error (.system .earlyEnd), [])
  | some (head, rest) => (.ok head, rest)

def declaredLength : Bytes → Nat
  | [a, b, c, d] => (BigEndian.decode32 a b c d).toNat
  | _ => 0

/-- Reads one message. The length is judged before the body is read. -/
def message {σ : Type} (read : Reader σ) (s : σ) : Except MessageFault Message × σ :=
  match read 4 s with
  | (.error e, s) => (.error (.ofRead e), s)
  | (.ok header, s) =>
    let length := declaredLength header
    if length = 0 then (.ok .keepAlive, s)
    else if length > maxFrameLength then (.error (.wire (.tooLarge length)), s)
    else
      match read length s with
      | (.error e, s) => (.error (.ofRead e), s)
      | (.ok body, s) => ((Message.parse body).mapError .wire, s)

def handshake {σ : Type} (read : Reader σ) (s : σ) : Except HandshakeFault Handshake × σ :=
  match read Handshake.size s with
  | (.error e, s) => (.error (.ofRead e), s)
  | (.ok data, s) => ((Handshake.decode data).mapError .failed, s)

/-- Reads messages from octets held in memory until one cannot be read, the first argument bounding
their number; each comes with the number of octets read so far. -/
def messages : Nat → Nat → Bytes → List (Message × Nat) × Option MessageFault
  | 0, _, _ => ([], none)
  | budget + 1, consumed, b =>
    match message ofBytes b with
    | (.error e, _) => ([], some e)
    | (.ok m, rest) =>
      let consumed := consumed + (b.length - rest.length)
      let (more, fault) := messages budget consumed rest
      ((m, consumed) :: more, fault)

end Reader

end Swarm
