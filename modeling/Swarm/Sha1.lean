import Swarm.Bytes
import Swarm.Text.Hex

/-!
The SHA-1 digest of a sequence of octets.

The message is padded to a whole number of 64-octet blocks; the message schedule is a window of
sixteen words that slides by one word each round, so no round indexes into a table.
-/

namespace Swarm

abbrev Digest := Fixed 20

namespace Sha1

structure State where
  a : UInt32
  b : UInt32
  c : UInt32
  d : UInt32
  e : UInt32

def State.initial : State := ⟨0x67452301, 0xefcdab89, 0x98badcfe, 0x10325476, 0xc3d2e1f0⟩

/-- Rotates a word to the left by `n` bits, `0 < n < 32`. -/
def rotateLeft (w n : UInt32) : UInt32 := (w <<< n) ||| (w >>> (32 - n))

def mix (t : Nat) (b c d : UInt32) : UInt32 :=
  if t < 20 then ((b &&& c) ||| (~~~b &&& d)) + 0x5a827999
  else if t < 40 then (b ^^^ c ^^^ d) + 0x6ed9eba1
  else if t < 60 then ((b &&& c) ||| (b &&& d) ||| (c &&& d)) + 0x8f1bbcdc
  else (b ^^^ c ^^^ d) + 0xca62c1d6

def round (t : Nat) (w : UInt32) (s : State) : State :=
  ⟨rotateLeft s.a 5 + mix t s.b s.c s.d + s.e + w, s.a, rotateLeft s.b 30, s.c, s.d⟩

def extend : List UInt32 → UInt32
  | [w0, _, w2, _, _, _, _, _, w8, _, _, _, _, w13, _, _] =>
    rotateLeft (w0 ^^^ w2 ^^^ w8 ^^^ w13) 1
  | _ => 0

/-- The last `left` of the eighty rounds, the window starting at the next schedule word. -/
def rounds : Nat → List UInt32 → State → State
  | 0, _, s => s
  | _ + 1, [], s => s
  | left + 1, w :: window, s =>
    rounds left (window ++ [extend (w :: window)]) (round (79 - left) w s)

def words : Bytes → List UInt32
  | a :: b :: c :: d :: rest => BigEndian.decode32 a b c d :: words rest
  | _ => []

def compress (s : State) (block : Bytes) : State :=
  let r := rounds 80 (words block) s
  ⟨s.a + r.a, s.b + r.b, s.c + r.c, s.d + r.d, s.e + r.e⟩

/-- The zero octets that, after the end mark and before the length, fill the last block. -/
def gap (length : Nat) : Nat := (119 - length % 64) % 64

def lengthField (length : Nat) : Bytes :=
  BigEndian.encode32 (UInt32.ofNat (8 * length / UInt32.size)) ++
    BigEndian.encode32 (UInt32.ofNat (8 * length))

def padded (message : Bytes) : Bytes :=
  message ++ 0x80 :: (List.replicate (gap message.length) 0 ++ lengthField message.length)

def State.octets (s : State) : Bytes :=
  BigEndian.encode32 s.a ++ BigEndian.encode32 s.b ++ BigEndian.encode32 s.c ++
    BigEndian.encode32 s.d ++ BigEndian.encode32 s.e

theorem State.length_octets (s : State) : s.octets.length = 20 := rfl

end Sha1

def sha1 (message : Bytes) : Digest :=
  let input := Sha1.padded message
  let final := (Bytes.records 64 (input.length / 64) input).foldl Sha1.compress Sha1.State.initial
  ⟨final.octets, final.length_octets⟩

def Digest.hex (d : Digest) : String := Hex.text d.1

example : (sha1 "abc".toUTF8.toList).hex = "a9993e364706816aba3e25717850c26c9cd0d89d" := by
  decide +kernel

end Swarm
