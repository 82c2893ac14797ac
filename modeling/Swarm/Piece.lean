import Swarm.Sha1
import Swarm.Wire.Error

/-!
A piece of the content while it is downloaded.

A piece is asked for in blocks of 16384 octets, of which only the last may be shorter. Where a block
lies follows from its number, so a piece keeps only how far each block has come. A block that is
there has its octets until they are released.
-/

namespace Swarm

/-- The length of every block but the last of a piece. -/
def blockSize : Nat := 16 * 1024

structure BlockRequest where
  piece : Nat
  offset : Nat
  length : Nat
deriving DecidableEq

inductive Block where
  | missing
  | requested
  | held (data : Bytes)
  | released
deriving DecidableEq

namespace Block

def isRetrieved : Block → Bool
  | held _ | released => true
  | _ => false

def data? : Block → Option Bytes
  | held data => some data
  | _ => none

def release : Block → Block
  | held _ => released
  | b => b

/-- The block as one that a peer was asked for, unless it has arrived. -/
def request : Block → Block
  | missing => requested
  | b => b

end Block

def blockCount (length : Nat) : Nat := (length + blockSize - 1) / blockSize

structure Piece where
  index : Nat
  length : Nat
  hash : Digest
  blocks : List Block
  blocks_length : blocks.length = blockCount length

namespace Piece

def empty (index length : Nat) (hash : Digest) : Piece :=
  ⟨index, length, hash, List.replicate (blockCount length) .missing, List.length_replicate⟩

def blockOffset (k : Nat) : Nat := k * blockSize

def blockLength (p : Piece) (k : Nat) : Nat := min blockSize (p.length - blockOffset k)

/-- The request for block `k`. Offsets have 32 bits in requests: in a piece that is longer than
those can tell apart, they begin anew. -/
def requestFor (p : Piece) (k : Nat) : BlockRequest :=
  ⟨p.index, blockOffset k % UInt32.size, p.blockLength k⟩

def blockAt? (p : Piece) (offset : Nat) : Option Nat :=
  if offset % blockSize = 0 ∧ offset / blockSize < p.blocks.length then some (offset / blockSize)
  else none

def modify (p : Piece) (k : Nat) (f : Block → Block) : Piece :=
  { p with blocks := p.blocks.modify k f, blocks_length := by simp [p.blocks_length] }

def map (p : Piece) (f : Block → Block) : Piece :=
  { p with blocks := p.blocks.map f, blocks_length := by simp [p.blocks_length] }

def firstMissing? (p : Piece) : Option Nat := p.blocks.findIdx? (· == .missing)

def takeMissing (p : Piece) : Option (BlockRequest × Piece) :=
  p.firstMissing?.map fun k => (p.requestFor k, p.modify k Block.request)

def markRequested (p : Piece) (offset : Nat) : Piece :=
  match p.blockAt? offset with
  | none => p
  | some k => p.modify k Block.request

def receive (p : Piece) (offset : Nat) (data : Bytes) : Except WireError Piece :=
  match p.blockAt? offset with
  | none => .error (.unknownBlock p.index offset)
  | some k =>
    if data.length = p.blockLength k then .ok (p.modify k fun _ => .held data)
    else .error (.blockLength p.index offset (p.blockLength k) data.length)

def isComplete (p : Piece) : Bool := p.blocks.all Block.isRetrieved

def data (p : Piece) : Bytes := (p.blocks.filterMap Block.data?).flatten

def hashMatches (p : Piece) : Bool := sha1 p.data == p.hash

def reset (p : Piece) : Piece := p.map fun _ => .missing

def release (p : Piece) : Piece := p.map Block.release

end Piece

end Swarm
