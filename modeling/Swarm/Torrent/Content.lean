import Swarm.Sha1

/-!
What a torrent describes: one file of a given length, cut into pieces of equal length of which
only the last may be shorter, and the digest of each piece.
-/

namespace Swarm

/-- The largest accepted length of a piece, one gibibyte. -/
def maxPieceLength : Nat := 1024 * 1024 * 1024

structure Content where
  name : String
  length : Nat
  /-- The number of octets in every piece but the last. -/
  pieceLength : Nat
  hashes : List Digest

namespace Content

def pieceCount (c : Content) : Nat := c.hashes.length

def pieceOffset (c : Content) (i : Nat) : Nat := i * c.pieceLength

/-- The number of octets of the file from the start of piece `i` on, at most a piece's length. -/
def sizeAt (c : Content) (i : Nat) : Nat := min c.pieceLength (c.length - c.pieceOffset i)

def pieceSize? (c : Content) (i : Nat) : Option Nat :=
  if i < c.pieceCount then some (c.sizeAt i) else none

def pieceHash? (c : Content) (i : Nat) : Option Digest := c.hashes[i]?

def expectedPieces (c : Content) : Nat :=
  if c.pieceLength = 0 then 0 else (c.length + c.pieceLength - 1) / c.pieceLength

def ofData (name : String) (pieceLength : Nat) (data : Bytes) : Content :=
  let count := if pieceLength = 0 then 0 else (data.length + pieceLength - 1) / pieceLength
  ⟨name, data.length, pieceLength, (Bytes.records pieceLength count data).map sha1⟩

/-- A file with something in it, cut into pieces of an accepted length, with a digest for each,
no more of them than a 32-bit index can name. -/
structure WellFormed (c : Content) : Prop where
  length_pos : 0 < c.length
  pieceLength_pos : 0 < c.pieceLength
  pieceLength_le : c.pieceLength ≤ maxPieceLength
  pieceCount_eq : c.pieceCount = c.expectedPieces
  pieceCount_le : c.pieceCount ≤ UInt32.size

end Content

end Swarm
