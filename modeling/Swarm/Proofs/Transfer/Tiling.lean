import Swarm.Proofs.Torrent.Acceptance
import Swarm.Proofs.Torrent.Octets
import Swarm.Proofs.Transfer.Blocks
import Swarm.Proofs.Transfer.Disk

/-!
How the file of a descriptor is divided. Its pieces lie one behind the other, the blocks of a piece
do so within the piece, and no number that says where one of them lies wraps around: octets are
counted in 64 bits, and places within a piece in 32. Every octet of the file is in exactly one
block, and what is written for a piece never reaches past the end of the file.

In a piece, where a block lies follows from its number. Walking through the piece from its start
gives the same requests (`Piece.requests_eq_cut`).
-/

namespace Swarm

open Storage (DiskOutcome OutputFile StorageError Tree)

namespace Content

structure Tiled (c : Content) : Prop where
  known : ∀ i < c.pieceCount, c.pieceSize? i = some (c.sizeAt i)
  size : ∀ i < c.pieceCount, 1 ≤ c.sizeAt i ∧ c.sizeAt i ≤ c.pieceLength
  full : ∀ i, i + 1 < c.pieceCount → c.sizeAt i = c.pieceLength
  next : ∀ i, i + 1 < c.pieceCount → c.pieceOffset i + c.sizeAt i = c.pieceOffset (i + 1)
  last : ∀ i, i + 1 = c.pieceCount → c.pieceOffset i + c.sizeAt i = c.length
  reach : c.length < UInt64.size ∧ ∀ i < c.pieceCount, c.pieceOffset i < UInt64.size

def Covers (c : Content) (r : BlockRequest) (x : Nat) : Prop :=
  c.pieceOffset r.piece + r.offset ≤ x ∧ x < c.pieceOffset r.piece + r.offset + r.length

variable {c : Content}

theorem WellFormed.tiled (wf : c.WellFormed) : c.Tiled := by
  have full : ∀ i, i + 1 < c.pieceCount → c.sizeAt i = c.pieceLength := by
    intro i before
    have further := wf.lt_pieceCount_iff.1 before
    rw [pieceOffset_succ] at further
    exact Nat.min_eq_left (by omega)
  constructor
  case known => exact fun i known => if_pos known
  case size => exact fun i known => ⟨wf.sizeAt_pos known, Nat.min_le_left _ _⟩
  case full => exact full
  case next =>
    intro i before
    rw [full i before, pieceOffset_succ]
  case last =>
    intro i last
    have start := wf.pieceOffset_lt (i := i) (by omega)
    have behind := mt (wf.lt_pieceCount_iff (i := i + 1)).2 (by omega)
    rw [pieceOffset_succ] at behind
    unfold sizeAt
    omega
  case reach => exact ⟨wf.length_lt, fun i known => (wf.pieceOffset_lt known).trans wf.length_lt⟩

/-- An octet of the file is in the piece whose number is that of the whole pieces before it. -/
theorem WellFormed.exists_piece_at (wf : c.WellFormed) {x : Nat} (inside : x < c.length) :
    ∃ i < c.pieceCount, c.pieceOffset i ≤ x ∧ x < c.pieceOffset i + c.sizeAt i := by
  have start : c.pieceOffset (x / c.pieceLength) ≤ x := Nat.div_mul_le_self x c.pieceLength
  have stop : x < c.pieceOffset (x / c.pieceLength) + c.pieceLength :=
    Nat.lt_div_mul_add wf.pieceLength_pos
  refine ⟨x / c.pieceLength, wf.lt_pieceCount_iff.2 (by omega), start, ?_⟩
  unfold sizeAt
  omega

/-- An octet of a piece is in the block whose number is that of the whole blocks before it. -/
theorem exists_block_at {i x : Nat} (first : c.pieceOffset i ≤ x)
    (last : x < c.pieceOffset i + c.sizeAt i) :
    ∃ k < blockCount (c.sizeAt i), c.Covers (c.request i k) x := by
  refine ⟨(x - c.pieceOffset i) / blockSize, ?_, ?_⟩
  · unfold blockCount blockSize
    omega
  · unfold Covers request blockSize
    dsimp only
    omega

theorem HasBlock.covers_piece {r : BlockRequest} (block : c.HasBlock r) {x : Nat}
    (covers : c.Covers r x) :
    c.pieceOffset r.piece ≤ x ∧ x < c.pieceOffset r.piece + c.sizeAt r.piece := by
  obtain ⟨first, last⟩ := covers
  have inside := block.bounds.2.1
  omega

theorem HasBlock.eq_of_covers {r s : BlockRequest} (here : c.HasBlock r) (there : c.HasBlock s)
    {x : Nat} (covers : c.Covers r x) (covers' : c.Covers s x) : r = s := by
  have piece : r.piece = s.piece := by
    have first := here.covers_piece covers
    have second := there.covers_piece covers'
    by_contra different
    have apart := pieces_apart (c := c) different
    omega
  obtain ⟨-, k, -, request⟩ := here
  obtain ⟨-, m, -, request'⟩ := there
  rw [← piece] at request'
  rw [request] at covers
  rw [request'] at covers'
  have number : k = m := by
    unfold Covers Content.request blockSize at covers covers'
    dsimp only at covers covers'
    omega
  rw [request, request', number]

end Content

namespace Piece

def requests (p : Piece) : List BlockRequest := (List.range p.blocks.length).map p.requestFor

/-- Walks through a piece from an offset on, a block at a time, and requests what it passes. All
numbers in a request have 32 bits. -/
def cut (index length offset : Nat) : List BlockRequest :=
  if offset < length then
    let size := min (length - offset) blockSize
    ⟨index % UInt32.size, offset % UInt32.size, size % UInt32.size⟩ ::
      cut index length (offset + size)
  else []
termination_by length - offset
decreasing_by
  unfold blockSize
  omega

theorem cut_of_le {index length offset : Nat} (beyond : length ≤ offset) :
    cut index length offset = [] := by
  rw [cut, if_neg (by omega)]

theorem cut_of_lt {index length offset : Nat} (inside : offset < length) :
    cut index length offset =
      ⟨index % UInt32.size, offset % UInt32.size,
        min (length - offset) blockSize % UInt32.size⟩ ::
      cut index length (offset + min (length - offset) blockSize) := by
  rw [cut, if_pos inside]

variable {p : Piece}

private theorem range'_requests (known : p.index < UInt32.size) (rest k : Nat)
    (all : k + rest = p.blocks.length) :
    (List.range' k rest).map p.requestFor = cut p.index p.length (blockOffset k) := by
  induction rest generalizing k with
  | zero =>
    have stop : p.length ≤ blockOffset k := by
      rw [show k = p.blocks.length from all]
      exact p.length_le_blockOffset
    exact (cut_of_le stop).symm
  | succ rest ih =>
    have start : blockOffset k < p.length := blockOffset_lt (by omega)
    have small : min (p.length - blockOffset k) blockSize % UInt32.size = p.blockLength k := by
      rw [Nat.min_comm, blockLength]
      exact Nat.mod_eq_of_lt (Nat.lt_of_le_of_lt (Nat.min_le_left _ _) (by decide))
    have tail : cut p.index p.length (blockOffset (k + 1)) =
        cut p.index p.length (blockOffset k + min (p.length - blockOffset k) blockSize) := by
      rcases Nat.le_total blockSize (p.length - blockOffset k) with full | short
      · rw [Nat.min_eq_right full, blockOffset_succ]
      · have next := blockOffset_succ k
        rw [Nat.min_eq_left short, cut_of_le (by omega), cut_of_le (by omega)]
    rw [List.range'_succ, List.map_cons, ih (k + 1) (by omega), tail, cut_of_lt start, small,
      Nat.mod_eq_of_lt known, requestFor]

/-- In the order of their numbers, the blocks are what a walk through the piece passes. -/
theorem requests_eq_cut (known : p.index < UInt32.size) :
    p.requests = cut p.index p.length 0 := by
  rw [requests, List.range_eq_range']
  exact range'_requests known p.blocks.length 0 (Nat.zero_add _)

theorem sum_blockLength (p : Piece) (count : Nat) :
    ((List.range count).map p.blockLength).sum = min (blockOffset count) p.length := by
  induction count with
  | zero =>
    rw [List.range_zero, List.map_nil, List.sum_nil, blockOffset, Nat.zero_mul, Nat.zero_min]
  | succ count ih =>
    rw [List.range_succ, List.map_append, List.sum_append, ih, blockOffset_succ,
      List.map_singleton, List.sum_singleton, blockLength]
    omega

theorem sum_length_requests (p : Piece) :
    (p.requests.map BlockRequest.length).sum = p.length := by
  calc
    (p.requests.map BlockRequest.length).sum =
        ((List.range p.blocks.length).map p.blockLength).sum := by
      rw [requests, List.map_map]
      rfl
    _ = min (blockOffset p.blocks.length) p.length := p.sum_blockLength _
    _ = p.length := Nat.min_eq_right p.length_le_blockOffset

structure Tiled (p : Piece) (i size : Nat) : Prop where
  cut : p.requests = cut i size 0
  place : ∀ k < p.blocks.length,
    (p.requestFor k).piece = i ∧ (p.requestFor k).offset = 16384 * k
  length : ∀ k < p.blocks.length,
    1 ≤ (p.requestFor k).length ∧ (p.requestFor k).length ≤ 16384
  full : ∀ k, k + 1 < p.blocks.length → (p.requestFor k).length = 16384
  sum : (p.requests.map BlockRequest.length).sum = size
  reach : i < UInt32.size ∧ ∀ k < p.blocks.length,
    (p.requestFor k).offset < UInt32.size ∧ (p.requestFor k).length < UInt32.size

theorem tiled (known : p.index < UInt32.size) (reach : p.length ≤ UInt32.size) :
    p.Tiled p.index p.length := by
  have request : ∀ k < p.blocks.length,
      p.requestFor k = ⟨p.index, blockOffset k, p.blockLength k⟩ :=
    fun k inside => requestFor_eq reach inside
  have start : ∀ k < p.blocks.length, blockOffset k < p.length :=
    fun k inside => blockOffset_lt inside
  have size : blockSize = 16384 := rfl
  constructor
  case cut => exact requests_eq_cut known
  case place =>
    intro k inside
    rw [request k inside]
    exact ⟨rfl, Nat.mul_comm _ _⟩
  case length =>
    intro k inside
    have before := start k inside
    rw [request k inside]
    unfold blockLength
    dsimp only
    omega
  case full =>
    intro k inside
    have before := start (k + 1) inside
    rw [request k (by omega)]
    unfold blockLength
    dsimp only
    rw [blockOffset_succ] at before
    omega
  case sum => exact sum_length_requests p
  case reach =>
    refine ⟨known, fun k inside => ?_⟩
    have before := start k inside
    rw [request k inside]
    unfold blockLength
    have word : blockSize < UInt32.size := by decide
    dsimp only
    omega

end Piece

namespace Descriptor

/-- Of no more pieces than 32 bits can number, what a descriptor describes is well-formed. -/
theorem wellFormed_of_parse {data : Bytes} {d : Descriptor} (read : parse data = .ok d)
    (few : d.content.pieceCount ≤ UInt32.size) : d.content.WellFormed := by
  have spells := parse_eq_ok_iff_spells.1 read
  have positive := spells.pieceLength_range.1
  constructor
  case length_pos => exact spells.length_range.1
  case pieceLength_pos => exact positive
  case pieceLength_le => exact spells.pieceLength_range.2
  case pieceCount_eq => exact spells.pieceCount.trans (expectedPieces_eq positive).symm
  case pieceCount_le => exact few

end Descriptor

namespace Transfer

variable {t : Transfer}

def Covers (t : Transfer) (b : Nat × Nat) (x : Nat) : Prop :=
  ∃ p, t.pieces[b.1]? = some p ∧ b.2 < p.blocks.length ∧ t.content.Covers (p.requestFor b.2) x

namespace Sound

theorem tiled_piece (sound : t.Sound) {i : Nat} {p : Piece} (found : t.pieces[i]? = some p) :
    p.Tiled i (t.content.sizeAt i) := by
  have suits := sound.suits i p found
  have known : i < UInt32.size :=
    Nat.lt_of_lt_of_le (sound.lt_of_piece found) sound.wellFormed.pieceCount_le
  have tiled := p.tiled (suits.index.symm ▸ known) (sound.reach found)
  rwa [suits.index, suits.length] at tiled

/-- Every octet of the file is in exactly one block, and no block reaches beyond the file. -/
theorem covers (sound : t.Sound) (x : Nat) :
    (x < t.content.length ↔ ∃ b, t.Covers b x) ∧ ∀ b b', t.Covers b x → t.Covers b' x → b = b' := by
  have wf := sound.wellFormed
  refine ⟨⟨?_, ?_⟩, ?_⟩
  · intro inside
    obtain ⟨i, known, first, last⟩ := wf.exists_piece_at inside
    obtain ⟨p, found⟩ := sound.exists_piece known
    obtain ⟨k, listed, covers⟩ := Content.exists_block_at first last
    rw [← sound.blockCount_eq found] at listed
    rw [← sound.requestFor_eq_request found listed] at covers
    exact ⟨(i, k), p, found, listed, covers⟩
  · intro covered
    obtain ⟨b, p, found, listed, covers⟩ := covered
    have block := sound.hasBlock_requestFor found listed
    have inside := (block.covers_piece covers).2
    have room := wf.pieceOffset_add_sizeAt_le block.1
    omega
  · intro b b' here there
    obtain ⟨p, found, listed, covers⟩ := here
    obtain ⟨p', found', listed', covers'⟩ := there
    have same := (sound.hasBlock_requestFor found listed).eq_of_covers
      (sound.hasBlock_requestFor found' listed') covers covers'
    rw [sound.requestFor_eq_request found listed,
      sound.requestFor_eq_request found' listed'] at same
    have piece : b.1 = b'.1 := congrArg BlockRequest.piece same
    rw [← piece] at same
    exact Prod.ext piece (Content.request_injective same)

/-- A piece that is complete lies inside the file, so no write of one is refused for its place. -/
theorem deliver_ne_pastEnd (sound : t.Sound) (saved : t.Saved) (i offset : Nat) (data : Bytes)
    (disk : DiskOutcome) (path : String) (place count length : Nat) :
    (t.deliver i offset data disk).1 ≠ .error (.storage (.pastEnd path place count length)) := by
  cases delivered : t.deliver i offset data disk with
  | mk answer next =>
    intro same
    dsimp only at same
    subst same
    cases sound.deliver_step delivered with
    | unwritten begun found _ _ fits complete _ unwritten =>
      obtain ⟨action, cause, -, same⟩ :=
        sound.system_of_unwritten saved.length begun found fits complete unwritten
      cases same
    | @written _ _ file _ _ _ _ _ _ _ _ _ verified =>
      obtain wrong | ⟨e, same, -, failed⟩ := verified
      · cases wrong
      · cases same
        obtain ⟨cause, -, same⟩ := OutputFile.sync_eq_error_iff.1 failed
        cases same

end Sound

/-- The pieces of a descriptor lie one behind the other in the file, and so do the blocks in each
piece, in every state that the download comes to. No number that says where one of them lies wraps
around. Every octet of the file is in exactly one block, and in a file of its length no block that
completes a piece is refused because it would reach past the end. -/
theorem pieces_and_blocks_tile {data : Bytes} {d : Descriptor}
    (read : Descriptor.parse data = .ok d) (few : d.content.pieceCount ≤ 2 ^ 32)
    (maxPeers requestTimeout : Nat) (file : OutputFile) (calls : List Call) :
    let c := d.content
    let t := (start c maxPeers requestTimeout file).after calls
    c.Tiled ∧ t.pieces.length = c.pieceCount ∧
    (∀ i (p : Piece), t.pieces[i]? = some p → p.Tiled i (c.sizeAt i)) ∧
    (∀ x, x < c.length ↔ ∃ b, t.Covers b x) ∧
    (∀ x b b', t.Covers b x → t.Covers b' x → b = b') ∧
    (∀ tree path, OutputFile.create tree path c.length = .ok file → file.length = c.length) ∧
    (file.length = c.length → ∀ i offset data disk path place count length,
      (t.deliver i offset data disk).1 ≠
        .error (.storage (.pastEnd path place count length))) := by
  intro c t
  have wf : c.WellFormed := Descriptor.wellFormed_of_parse read few
  have first := Sound.start wf maxPeers requestTimeout file
  have sound : t.Sound := first.after calls
  have content : t.content = c := (first.settings_after calls).1
  rw [← content]
  refine ⟨sound.wellFormed.tiled, sound.pieces_length, fun i p => sound.tiled_piece,
    fun x => (sound.covers x).1, fun x => (sound.covers x).2, ?_, ?_⟩
  · intro tree path created
    obtain ⟨earlier, same⟩ := OutputFile.exists_ofContent_of_create created
    exact congrArg OutputFile.length same
  · intro full i offset data disk
    rw [content] at full
    have saved : t.Saved := (first.after_saved (saved_start maxPeers requestTimeout full) calls).1
    exact sound.deliver_ne_pastEnd saved i offset data disk

namespace Sample

def dictionary : Bytes := Bytes.ofText
  "d6:lengthi3e4:name1:f12:piece lengthi2e6:pieces40:aaaaaaaaaaaaaaaaaaaabbbbbbbbbbbbbbbbbbbbe"

def text : Bytes := Bytes.ofText "d8:announce1:u4:info" ++ (dictionary ++ [101])

def descriptor : Descriptor where
  announce := "u"
  infoHash := sha1 dictionary
  content := ⟨"f", 3, 2, [Fixed.fill 20 97, Fixed.fill 20 98]⟩

end Sample

theorem pieces_and_blocks_tile_sample :
    let file : OutputFile := .ofContent "out" 3 [9]
    let t := (start Sample.descriptor.content 4 1000 file).after []
    Descriptor.parse Sample.text = .ok Sample.descriptor ∧
      Sample.descriptor.content.pieceCount ≤ 2 ^ 32 ∧
      Sample.descriptor.content.pieceOffset 1 + Sample.descriptor.content.sizeAt 1 = 3 ∧
      (2 < 3 ↔ ∃ b, t.Covers b 2) := by
  intro file t
  have read : Descriptor.parse Sample.text = .ok Sample.descriptor :=
    Descriptor.parse_eq_ok_iff.2 ⟨_, _, Sample.dictionary, rfl, rfl, rfl, rfl, rfl, rfl, rfl⟩
  have few : Sample.descriptor.content.pieceCount ≤ 2 ^ 32 := by decide
  obtain ⟨tiled, -, -, covered, -⟩ := pieces_and_blocks_tile read few 4 1000 file []
  exact ⟨read, few, tiled.last 1 rfl, covered 2⟩

end Transfer

end Swarm
