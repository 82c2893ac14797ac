import Swarm.Wire.Error
import Swarm.Text.Utf8

/-!
The handshake that opens a connection in both directions: the name of the protocol behind its
length, eight octets for extensions, the digest that names the content, and the sender's id.
-/

namespace Swarm

abbrev PeerId := Fixed 20

structure Handshake where
  reserved : Fixed 8
  infoHash : Digest
  peerId : PeerId
deriving DecidableEq

namespace Handshake

def size : Nat := 68

def header : Bytes :=
  [0x13, 0x42, 0x69, 0x74, 0x54, 0x6f, 0x72, 0x72, 0x65, 0x6e, 0x74, 0x20, 0x70, 0x72, 0x6f, 0x74,
    0x6f, 0x63, 0x6f, 0x6c]

def plain (infoHash : Digest) (peerId : PeerId) : Handshake :=
  ⟨Fixed.fill 8 0, infoHash, peerId⟩

def encode (h : Handshake) : Bytes := header ++ (h.reserved.1 ++ (h.infoHash.1 ++ h.peerId.1))

theorem length_encode (h : Handshake) : h.encode.length = size := by
  simp [encode, header, size, h.reserved.2, h.infoHash.2, h.peerId.2]

def fields? (b : Bytes) : Option Handshake := do
  let (reserved, b) ← Bytes.field? 8 b
  let (infoHash, b) ← Bytes.field? 20 b
  let (peerId, _) ← Bytes.field? 20 b
  return ⟨reserved, infoHash, peerId⟩

/-- Reads a handshake; what follows it is ignored. -/
def decode (data : Bytes) : Except HandshakeError Handshake :=
  match data with
  | [] => .error .noResponse
  | nameLength :: _ =>
    match fields? (data.drop header.length) with
    | none => .error .noResponse
    | some h => if data.take header.length = header then .ok h else .error (.otherProtocol nameLength)

def check (h : Handshake) (expected : Digest) : Except HandshakeError Unit :=
  if h.infoHash = expected then .ok () else .error (.otherContent expected h.infoHash)

end Handshake

def PeerId.tag : Fixed 8 := ⟨Bytes.ofText "-RL0100-", by decide +kernel⟩

def PeerId.ofDigits (digits : Fin 12 → Fin 10) : PeerId :=
  ⟨tag.1 ++ (List.ofFn fun i => UInt8.ofNat (48 + (digits i).val)), by simp [tag.2]⟩

def PeerId.label (id : PeerId) : String := Utf8.lossy id.1

end Swarm
