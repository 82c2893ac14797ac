import Swarm.Wire.Error

/-!
Messages between peers and their frames.

A frame is the length of a body in four octets and then the body: nothing for a keep-alive, else an
octet that tells the kind of message, and its payload. `Message.parse` reads a body,
`Message.ofFrame` a frame that is held in full. Messages of a fixed size may be followed by octets
that are ignored; a bitfield and a block extend to the end of the body.
-/

namespace Swarm

inductive Message where
  | keepAlive
  | choke
  | unchoke
  | interested
  | notInterested
  | have (piece : UInt32)
  | bitfield (bits : Bytes)
  | request (index start length : UInt32)
  | piece (index start : UInt32) (block : Bytes)
  | cancel (index start length : UInt32)
  | port (listening : UInt16)
deriving DecidableEq

namespace Message

def kind : Message → MessageKind
  | keepAlive => .keepAlive
  | choke => .choke
  | unchoke => .unchoke
  | interested => .interested
  | notInterested => .notInterested
  | .have _ => .have
  | bitfield _ => .bitfield
  | request .. => .request
  | piece .. => .piece
  | cancel .. => .cancel
  | port _ => .port

def payload : Message → Bytes
  | .have i => BigEndian.encode32 i
  | bitfield bits => bits
  | request index start length =>
    BigEndian.encode32 index ++ BigEndian.encode32 start ++ BigEndian.encode32 length
  | piece index start block => BigEndian.encode32 index ++ BigEndian.encode32 start ++ block
  | cancel index start length =>
    BigEndian.encode32 index ++ BigEndian.encode32 start ++ BigEndian.encode32 length
  | port listening => BigEndian.encode16 listening
  | _ => []

def body (m : Message) : Bytes := m.kind.octet?.toList ++ m.payload

def length : Message → Nat
  | keepAlive => 0
  | choke | unchoke | interested | notInterested => 1
  | .have _ => 5
  | bitfield bits => 1 + bits.length
  | request .. | cancel .. => 13
  | piece _ _ block => 9 + block.length
  | port _ => 3

theorem length_body (m : Message) : m.body.length = m.length := by
  cases m <;> simp [body, kind, MessageKind.octet?, payload, length] <;> omega

def frame (m : Message) : Bytes := BigEndian.encode32 (UInt32.ofNat m.length) ++ m.body

def ofPayload (kind : MessageKind) (payload : Bytes) : Except WireError Message :=
  match kind with
  | .keepAlive => .ok keepAlive
  | .choke => .ok choke
  | .unchoke => .ok unchoke
  | .interested => .ok interested
  | .notInterested => .ok notInterested
  | .have =>
    match payload with
    | a :: b :: c :: d :: _ => .ok (.have (BigEndian.decode32 a b c d))
    | short => .error (.tooShort kind 4 short.length)
  | .bitfield => .ok (bitfield payload)
  | .request =>
    match payload with
    | a :: b :: c :: d :: e :: f :: g :: h :: i :: j :: k :: l :: _ =>
      .ok (request (BigEndian.decode32 a b c d) (BigEndian.decode32 e f g h)
        (BigEndian.decode32 i j k l))
    | short => .error (.tooShort kind 12 short.length)
  | .piece =>
    match payload with
    | a :: b :: c :: d :: e :: f :: g :: h :: block =>
      .ok (piece (BigEndian.decode32 a b c d) (BigEndian.decode32 e f g h) block)
    | short => .error (.tooShort kind 8 short.length)
  | .cancel =>
    match payload with
    | a :: b :: c :: d :: e :: f :: g :: h :: i :: j :: k :: l :: _ =>
      .ok (cancel (BigEndian.decode32 a b c d) (BigEndian.decode32 e f g h)
        (BigEndian.decode32 i j k l))
    | short => .error (.tooShort kind 12 short.length)
  | .port =>
    match payload with
    | a :: b :: _ => .ok (port (BigEndian.decode16 a b))
    | short => .error (.tooShort kind 2 short.length)

def parse : Bytes → Except WireError Message
  | [] => .ok keepAlive
  | octet :: payload =>
    match MessageKind.ofOctet? octet with
    | none => .error (.invalidOctet octet)
    | some kind => ofPayload kind payload

/-- Reads a frame, of which nothing may be missing and which nothing may follow. -/
def ofFrame : Bytes → Except WireError Message
  | a :: b :: c :: d :: body =>
    let declared := (BigEndian.decode32 a b c d).toNat
    if declared = body.length then parse body
    else .error (.lengthMismatch declared body.length)
  | short => .error (.framedTooShort short.length)

end Message

end Swarm
