import Swarm.Bytes

/-!
Sets of pieces as peers send them: a bit for each piece, the most significant bit of each octet
first. Bits that are not there count as zero.
-/

namespace Swarm.Bitfield

def has (bits : Bytes) (i : Nat) : Bool :=
  match bits[i / 8]? with
  | none => false
  | some octet => octet.toNat.testBit (7 - i % 8)

/-- The set with piece `i` added; it grows as far as that needs. -/
def insert (bits : Bytes) (i : Nat) : Bytes :=
  let grown := bits ++ List.replicate (i / 8 + 1 - bits.length) 0
  grown.modify (i / 8) fun octet => octet ||| UInt8.ofNat (1 <<< (7 - i % 8))

def full (n : Nat) : Bytes :=
  (List.range ((n + 7) / 8)).map fun k =>
    UInt8.ofNat (256 - 1 <<< (8 - min 8 (n - 8 * k)))

end Swarm.Bitfield
