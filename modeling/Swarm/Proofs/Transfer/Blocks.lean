import Mathlib.Algebra.Ring.Nat
import Swarm.Proofs.Transfer.Requests

/-!
Single blocks of a download: the request that names each of them, and what becomes of each of them
by the changes that calls make.

A block is known by its piece and its number in the piece. What a request for it has to say follows
from the content alone, so it is the same throughout a run.
-/

namespace Swarm

namespace Content

def request (c : Content) (i k : Nat) : BlockRequest :=
  ⟨i, k * blockSize, min blockSize (c.sizeAt i - k * blockSize)⟩

def HasBlock (c : Content) (r : BlockRequest) : Prop :=
  r.piece < c.pieceCount ∧ ∃ k < blockCount (c.sizeAt r.piece), r = c.request r.piece k

def requests (c : Content) : List BlockRequest :=
  (List.range c.pieceCount).flatMap fun i =>
    (List.range (blockCount (c.sizeAt i))).map (c.request i)

theorem request_injective {c : Content} {i k m : Nat} (same : c.request i k = c.request i m) :
    k = m :=
  Piece.blockOffset_injective (congrArg BlockRequest.offset same)

theorem mem_requests {c : Content} {r : BlockRequest} : r ∈ c.requests ↔ c.HasBlock r := by
  simp only [requests, List.mem_flatMap, List.mem_range, List.mem_map]
  constructor
  · intro listed
    obtain ⟨i, known, k, inside, rfl⟩ := listed
    exact ⟨known, k, inside, rfl⟩
  · intro block
    obtain ⟨known, k, inside, same⟩ := block
    exact ⟨r.piece, known, k, inside, same.symm⟩

/-- A block starts at a multiple of the size of blocks and ends with its piece at the latest. -/
theorem HasBlock.bounds {c : Content} {r : BlockRequest} (block : c.HasBlock r) :
    blockSize ∣ r.offset ∧ r.offset + r.length ≤ c.sizeAt r.piece ∧ 0 < r.length ∧
      r.length = min blockSize (c.sizeAt r.piece - r.offset) := by
  obtain ⟨-, k, inside, request⟩ := block
  have offset : r.offset = k * blockSize := congrArg BlockRequest.offset request
  have length : r.length = min blockSize (c.sizeAt r.piece - r.offset) := by
    rw [offset]
    exact congrArg BlockRequest.length request
  have start : r.offset < c.sizeAt r.piece := by
    unfold blockCount blockSize at inside
    unfold blockSize at offset
    omega
  have size : 0 < blockSize := by decide
  refine ⟨⟨k, offset.trans (Nat.mul_comm _ _)⟩, ?_, ?_, length⟩
  · omega
  · omega

/-- All that a request for a block says fits in 32 bits. -/
theorem WellFormed.toNat_of_hasBlock {c : Content} (wf : c.WellFormed) {r : BlockRequest}
    (block : c.HasBlock r) : (UInt32.ofNat r.piece).toNat = r.piece ∧
      (UInt32.ofNat r.offset).toNat = r.offset ∧ (UInt32.ofNat r.length).toNat = r.length := by
  obtain ⟨-, inside, filled, length⟩ := block.bounds
  have known := Nat.lt_of_lt_of_le block.1 wf.pieceCount_le
  have reach := wf.sizeAt_le r.piece
  have small : blockSize < UInt32.size := by decide
  exact ⟨UInt32.toNat_ofNat_of_lt' known, UInt32.toNat_ofNat_of_lt' (by omega),
    UInt32.toNat_ofNat_of_lt' (by omega)⟩

theorem requests_nodup (c : Content) : c.requests.Nodup := by
  refine List.nodup_flatMap.2 ⟨?_, ?_⟩
  · intro i _
    exact List.nodup_range.map_on fun _ _ _ _ same => request_injective same
  · refine List.nodup_range.imp ?_
    intro i j apart r here there
    obtain ⟨_, _, rfl⟩ := List.mem_map.1 here
    obtain ⟨_, _, same⟩ := List.mem_map.1 there
    exact apart (congrArg BlockRequest.piece same).symm

theorem length_requests (c : Content) :
    c.requests.length = ((List.range c.pieceCount).map fun i => blockCount (c.sizeAt i)).sum := by
  simp only [requests, List.length_flatMap, List.length_map, List.length_range]

end Content

namespace Transfer

def block? (t : Transfer) (i k : Nat) : Option Block := t.pieces[i]?.bind fun p => p.blocks[k]?

section Changes

variable {t t' : Transfer} {i k : Nat} {p q : Piece}

theorem block?_eq (found : t.pieces[i]? = some p) (k : Nat) : t.block? i k = p.blocks[k]? := by
  rw [block?, found, Option.bind_some]

theorem block?_eq_some_iff {b : Block} :
    t.block? i k = some b ↔ ∃ p, t.pieces[i]? = some p ∧ p.blocks[k]? = some b :=
  Option.bind_eq_some_iff

theorem block?_of_pieces_eq (same : t'.pieces = t.pieces) (i k : Nat) :
    t'.block? i k = t.block? i k := by
  rw [block?, block?, same]

theorem block?_set (found : t.pieces[i]? = some p) (pieces : t'.pieces = t.pieces.set i q)
    (j m : Nat) : t'.block? j m = if j = i then q.blocks[m]? else t.block? j m := by
  have inside : i < t.pieces.length := (List.getElem?_eq_some_iff.1 found).1
  rw [block?, pieces]
  split
  next here => rw [here, List.getElem?_set_self inside, Option.bind_some]
  next other => rw [List.getElem?_set_ne (Ne.symm other), block?]

theorem block?_modify (f : Block → Block) {b : Block} (found : t.pieces[i]? = some p)
    (place : p.blocks[k]? = some b) (pieces : t'.pieces = t.pieces.set i (p.modify k f))
    (j m : Nat) : t'.block? j m = if j = i ∧ m = k then some (f b) else t.block? j m := by
  rw [block?_set found pieces]
  by_cases here : j = i
  · subst here
    by_cases same : m = k
    · subst same
      rw [if_pos rfl, if_pos ⟨rfl, rfl⟩, Piece.blocks_modify_at f place]
    · rw [if_pos rfl, if_neg (fun both => same both.2), Piece.blocks_modify_off p f same,
        block?_eq found]
  · rw [if_neg here, if_neg (fun both => here both.1)]

theorem block?_ask (found : t.pieces[i]? = some p) (free : p.blocks[k]? = some .missing)
    (now j m : Nat) :
    (t.ask i p k now).block? j m = if j = i ∧ m = k then some .requested else t.block? j m :=
  block?_modify Block.request found free rfl j m

theorem block?_store (found : t.pieces[i]? = some p) (inside : k < p.blocks.length) (data : Bytes)
    (j m : Nat) :
    (t.store i p k data).block? j m = if j = i ∧ m = k then some (.held data) else t.block? j m :=
  block?_modify (fun _ => .held data) found (List.getElem?_eq_getElem inside) rfl j m

theorem block?_discard (found : t.pieces[i]? = some p) (file : Storage.OutputFile) (j m : Nat) :
    (t.discard i p file).block? j m =
      if j = i then (t.block? j m).map fun _ => .missing else t.block? j m := by
  rw [block?_set found rfl]
  split
  next here => rw [here, block?_eq found, Piece.reset, Piece.map, List.getElem?_map]
  next => rfl

theorem block?_conclude (found : t.pieces[i]? = some p) {data : Bytes}
    (complete : (p.modify k fun _ => .held data).isComplete = true) (file : Storage.OutputFile)
    (j m : Nat) : (t.conclude i p k data file).block? j m =
      if j = i then (t.block? j m).map fun _ => .released else t.block? j m := by
  rw [block?_set found rfl]
  split
  next here => rw [here, block?_eq found, Piece.release_modify_held complete, Piece.map,
    List.getElem?_map]
  next => rfl

end Changes

namespace Sound

variable {t : Transfer} {i k : Nat} {p : Piece} {b : Block}

theorem requestFor_eq_request (sound : t.Sound) (found : t.pieces[i]? = some p)
    (inside : k < p.blocks.length) : p.requestFor k = t.content.request i k := by
  rw [sound.requestFor_eq found inside, Piece.blockLength, (sound.suits i p found).length]
  rfl

theorem blockCount_eq (sound : t.Sound) (found : t.pieces[i]? = some p) :
    p.blocks.length = blockCount (t.content.sizeAt i) := by
  rw [p.blocks_length, (sound.suits i p found).length]

theorem hasBlock_requestFor (sound : t.Sound) (found : t.pieces[i]? = some p)
    (inside : k < p.blocks.length) : t.content.HasBlock (p.requestFor k) := by
  rw [sound.requestFor_eq_request found inside]
  exact ⟨sound.lt_of_piece found, k, sound.blockCount_eq found ▸ inside, rfl⟩

theorem hasBlock_iff (sound : t.Sound) {r : BlockRequest} : t.content.HasBlock r ↔
    ∃ k b, t.block? r.piece k = some b ∧ r = t.content.request r.piece k := by
  constructor
  · intro has
    obtain ⟨known, k, inside, same⟩ := has
    obtain ⟨p, found⟩ := sound.exists_piece known
    rw [← sound.blockCount_eq found] at inside
    exact ⟨k, p.blocks[k], by rw [block?_eq found, List.getElem?_eq_getElem inside], same⟩
  · intro block
    obtain ⟨k, b, known, same⟩ := block
    obtain ⟨p, found, place⟩ := block?_eq_some_iff.1 known
    have inside := (List.getElem?_eq_some_iff.1 place).1
    exact ⟨sound.lt_of_piece found, k, sound.blockCount_eq found ▸ inside, same⟩

/-- A request is out exactly for the blocks that are waited for. -/
theorem mem_requests_iff_block? (sound : t.Sound) {r : BlockRequest} : r ∈ t.requests ↔
    ∃ k, t.block? r.piece k = some .requested ∧ r = t.content.request r.piece k := by
  rw [sound.requests_iff r]
  constructor
  · intro waited
    obtain ⟨p, found, k, asked, request⟩ := waited
    have inside := (List.getElem?_eq_some_iff.1 asked).1
    exact ⟨k, by rwa [block?_eq found], request.trans (sound.requestFor_eq_request found inside)⟩
  · intro block
    obtain ⟨k, asked, request⟩ := block
    obtain ⟨p, found, place⟩ := block?_eq_some_iff.1 asked
    have inside := (List.getElem?_eq_some_iff.1 place).1
    exact ⟨p, found, k, place, request.trans (sound.requestFor_eq_request found inside).symm⟩

end Sound

end Transfer

end Swarm
