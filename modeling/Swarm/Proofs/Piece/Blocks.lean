import Mathlib.Data.List.Basic
import Swarm.Piece

/-!
The blocks of a piece: where they lie, what changing one of them does to the others, and what
taking one in or asking for one amounts to.

A piece is kept within 32-bit offsets, so a request names its block by its true offset. The blocks
together have as many octets as the piece.
-/

namespace Swarm

namespace Block

@[simp] theorem data?_held (data : Bytes) : (held data).data? = some data := rfl

theorem exists_held {b : Block} (arrived : b.isRetrieved = true) (kept : b ≠ .released) :
    ∃ data, b = held data := by
  cases b with
  | missing => cases arrived
  | requested => cases arrived
  | held data => exact ⟨data, rfl⟩
  | released => exact absurd rfl kept

theorem release_of_isRetrieved {b : Block} (arrived : b.isRetrieved = true) :
    b.release = .released := by
  cases b with
  | missing => cases arrived
  | requested => cases arrived
  | held data => rfl
  | released => rfl

theorem request_of_ne_missing {b : Block} (known : b ≠ .missing) : b.request = b := by
  cases b with
  | missing => exact absurd rfl known
  | _ => rfl

end Block

namespace Piece

structure Same (p q : Piece) : Prop where
  index : p.index = q.index
  length : p.length = q.length
  hash : p.hash = q.hash

theorem Same.eq {p q : Piece} (same : Same p q) (blocks : p.blocks = q.blocks) : p = q := by
  obtain ⟨index, length, hash⟩ := same
  cases p
  cases q
  simp only at index length hash blocks
  subst index length hash blocks
  rfl

theorem same_modify (p : Piece) (k : Nat) (f : Block → Block) : Same (p.modify k f) p :=
  ⟨rfl, rfl, rfl⟩

theorem same_map (p : Piece) (f : Block → Block) : Same (p.map f) p := ⟨rfl, rfl, rfl⟩

theorem Same.trans {p q r : Piece} (first : Same p q) (second : Same q r) : Same p r :=
  ⟨first.index.trans second.index, first.length.trans second.length,
    first.hash.trans second.hash⟩

theorem Same.blockLength {p q : Piece} (same : Same p q) (k : Nat) :
    p.blockLength k = q.blockLength k := by
  simp only [Piece.blockLength, same.length]

theorem Same.requestFor {p q : Piece} (same : Same p q) (k : Nat) :
    p.requestFor k = q.requestFor k := by
  simp only [Piece.requestFor, same.index, same.blockLength]

/-! ### Where blocks lie -/

theorem blockOffset_succ (k : Nat) : blockOffset (k + 1) = blockOffset k + blockSize :=
  Nat.succ_mul k blockSize

theorem blockOffset_lt {p : Piece} {k : Nat} (inside : k < p.blocks.length) :
    blockOffset k < p.length := by
  rw [p.blocks_length] at inside
  unfold blockCount blockSize at inside
  unfold blockOffset blockSize
  omega

theorem length_le_blockOffset (p : Piece) : p.length ≤ blockOffset p.blocks.length := by
  rw [p.blocks_length]
  unfold blockCount blockOffset blockSize
  omega

theorem blocks_pos {p : Piece} (filled : 0 < p.length) : 0 < p.blocks.length := by
  rw [p.blocks_length]
  unfold blockCount blockSize
  omega

theorem blockAt?_eq_some_iff {p : Piece} {offset k : Nat} :
    p.blockAt? offset = some k ↔ offset = blockOffset k ∧ k < p.blocks.length := by
  unfold blockAt? blockOffset
  constructor
  · intro found
    split at found
    next inside =>
      cases found
      exact ⟨(Nat.div_mul_cancel (Nat.dvd_of_mod_eq_zero inside.1)).symm, inside.2⟩
    next => cases found
  · intro place
    obtain ⟨rfl, inside⟩ := place
    have positive : 0 < blockSize := by decide
    rw [Nat.mul_mod_left, Nat.mul_div_cancel _ positive, if_pos ⟨rfl, inside⟩]

theorem blockOffset_injective {j k : Nat} (same : blockOffset j = blockOffset k) : j = k := by
  unfold blockOffset blockSize at same
  omega

/-- In a piece that 32-bit offsets reach through, a request tells where its block lies. -/
theorem requestFor_eq {p : Piece} {k : Nat} (reach : p.length ≤ UInt32.size)
    (inside : k < p.blocks.length) :
    p.requestFor k = ⟨p.index, blockOffset k, p.blockLength k⟩ := by
  have start := blockOffset_lt inside
  unfold requestFor
  rw [Nat.mod_eq_of_lt (Nat.lt_of_lt_of_le start reach)]

/-! ### Changing blocks -/

theorem blocks_modify_at {p : Piece} {k : Nat} {b : Block} (f : Block → Block)
    (found : p.blocks[k]? = some b) : (p.modify k f).blocks[k]? = some (f b) := by
  simp only [modify, List.getElem?_modify_eq, found, Option.map_eq_map, Option.map_some]

theorem blocks_modify_off (p : Piece) {j k : Nat} (f : Block → Block) (apart : j ≠ k) :
    (p.modify k f).blocks[j]? = p.blocks[j]? := by
  simp only [modify, List.getElem?_modify_ne _ _ apart.symm]

theorem blocks_modify_cases {p : Piece} {j k : Nat} {f : Block → Block} {b : Block}
    (found : (p.modify k f).blocks[j]? = some b) :
    (j = k ∧ ∃ old, p.blocks[k]? = some old ∧ b = f old) ∨ (j ≠ k ∧ p.blocks[j]? = some b) := by
  by_cases here : j = k
  · subst here
    simp only [modify, List.getElem?_modify_eq, Option.map_eq_map, Option.map_eq_some_iff] at found
    obtain ⟨old, known, rfl⟩ := found
    exact Or.inl ⟨rfl, old, known, rfl⟩
  · rw [blocks_modify_off p f here] at found
    exact Or.inr ⟨here, found⟩

theorem mem_modify_cases {p : Piece} {k : Nat} {f : Block → Block} {b : Block}
    (member : b ∈ (p.modify k f).blocks) :
    (∃ old, p.blocks[k]? = some old ∧ b = f old) ∨ b ∈ p.blocks := by
  obtain ⟨j, found⟩ := List.mem_iff_getElem?.1 member
  rcases blocks_modify_cases found with ⟨_, changed⟩ | ⟨_, before⟩
  · exact Or.inl changed
  · exact Or.inr (List.mem_of_getElem? before)

theorem mem_map_blocks {p : Piece} {f : Block → Block} {b : Block} :
    b ∈ (p.map f).blocks ↔ ∃ old ∈ p.blocks, f old = b := List.mem_map

theorem reset_modify (p : Piece) (k : Nat) (f : Block → Block) : (p.modify k f).reset = p.reset := by
  refine Same.eq ⟨rfl, rfl, rfl⟩ ?_
  apply List.ext_getElem?
  intro j
  simp only [reset, map, modify, List.getElem?_map, List.getElem?_modify]
  cases p.blocks[j]? <;> rfl

theorem eq_missing_of_mem_reset {p : Piece} {b : Block} (found : b ∈ p.reset.blocks) :
    b = .missing := by
  obtain ⟨_, _, same⟩ := mem_map_blocks.1 found
  exact same.symm

theorem request_modify_of_ne_missing {p : Piece} {k : Nat} {b : Block}
    (found : p.blocks[k]? = some b) (known : b ≠ .missing) : p.modify k Block.request = p := by
  apply (same_modify p k _).eq
  apply List.ext_getElem?
  intro j
  by_cases here : j = k
  · subst here
    rw [blocks_modify_at _ found, found, Block.request_of_ne_missing known]
  · rw [blocks_modify_off p _ here]

/-! ### Taking blocks in and asking for them -/

theorem receive_eq_ok_iff {p q : Piece} {offset : Nat} {data : Bytes} :
    p.receive offset data = .ok q ↔
      ∃ k, offset = blockOffset k ∧ k < p.blocks.length ∧ data.length = p.blockLength k ∧
        q = p.modify k fun _ => .held data := by
  unfold receive
  cases place : p.blockAt? offset with
  | none =>
    simp only [reduceCtorEq, false_iff]
    intro fit
    obtain ⟨k, starts, inside, _⟩ := fit
    rw [blockAt?_eq_some_iff.2 ⟨starts, inside⟩] at place
    cases place
  | some k =>
    obtain ⟨rfl, inside⟩ := blockAt?_eq_some_iff.1 place
    constructor
    · intro taken
      dsimp only at taken
      split at taken
      next full =>
        cases taken
        exact ⟨k, rfl, inside, full, rfl⟩
      next => cases taken
    · intro fit
      obtain ⟨j, starts, _, full, rfl⟩ := fit
      have same : k = j := blockOffset_injective starts
      subst same
      simp only [full, if_true]

/-- A piece refuses a block that starts where none of its blocks does, or is not as long as the one
that starts there. -/
theorem receive_eq_error_iff {p : Piece} {offset : Nat} {data : Bytes} {e : WireError} :
    p.receive offset data = .error e ↔
      (∀ k < p.blocks.length, offset ≠ blockOffset k) ∧ e = .unknownBlock p.index offset ∨
      ∃ k < p.blocks.length, offset = blockOffset k ∧ data.length ≠ p.blockLength k ∧
        e = .blockLength p.index offset (p.blockLength k) data.length := by
  unfold receive
  cases place : p.blockAt? offset with
  | none =>
    have astray : ∀ k < p.blocks.length, offset ≠ blockOffset k := by
      intro k inside start
      cases place.symm.trans (blockAt?_eq_some_iff.2 ⟨start, inside⟩)
    constructor
    · intro refused
      cases refused
      exact Or.inl ⟨astray, rfl⟩
    · intro reason
      rcases reason with ⟨-, rfl⟩ | ⟨k, inside, start, -⟩
      · rfl
      · exact absurd start (astray k inside)
  | some k =>
    obtain ⟨rfl, inside⟩ := blockAt?_eq_some_iff.1 place
    constructor
    · intro refused
      dsimp only at refused
      split at refused
      next => cases refused
      next differs =>
        cases refused
        exact Or.inr ⟨k, inside, rfl, differs, rfl⟩
    · intro reason
      rcases reason with ⟨astray, -⟩ | ⟨j, -, start, differs, rfl⟩
      · exact absurd rfl (astray k inside)
      · cases blockOffset_injective start
        exact if_neg differs

theorem markRequested_of_requested {p : Piece} {k : Nat}
    (asked : p.blocks[k]? = some .requested) : p.markRequested (blockOffset k) = p := by
  have inside : k < p.blocks.length := (List.getElem?_eq_some_iff.1 asked).1
  have place : p.blockAt? (blockOffset k) = some k := blockAt?_eq_some_iff.2 ⟨rfl, inside⟩
  simp only [markRequested, place]
  exact request_modify_of_ne_missing asked (by simp)

theorem takeMissing_eq_none_iff {p : Piece} :
    p.takeMissing = none ↔ ∀ b ∈ p.blocks, b ≠ .missing := by
  simp only [takeMissing, firstMissing?, Option.map_eq_none_iff, List.findIdx?_eq_none_iff,
    beq_eq_false_iff_ne]

theorem takeMissing_eq_some {p q : Piece} {r : BlockRequest} (taken : p.takeMissing = some (r, q)) :
    ∃ k, p.blocks[k]? = some .missing ∧ r = p.requestFor k ∧ q = p.modify k Block.request := by
  simp only [takeMissing, firstMissing?, Option.map_eq_some_iff, Prod.mk.injEq] at taken
  obtain ⟨k, first, rfl, rfl⟩ := taken
  obtain ⟨inside, found, _⟩ := List.findIdx?_eq_some_iff_getElem.1 first
  refine ⟨k, ?_, rfl, rfl⟩
  rw [List.getElem?_eq_getElem inside, eq_of_beq found]

/-! ### The block that completes a piece -/

section Complete

variable {p : Piece} {k : Nat} {data : Bytes}

theorem blocks_modify_held (p : Piece) (k : Nat) (data : Bytes) :
    (p.modify k fun _ => .held data).blocks = p.blocks.set k (.held data) := by
  apply List.ext_getElem?
  intro j
  rw [modify, List.getElem?_modify, List.getElem?_set']
  cases p.blocks[j]? with
  | none => split <;> rfl
  | some b => split <;> rfl

theorem data_modify_held (p : Piece) (k : Nat) (data : Bytes) :
    (p.modify k fun _ => .held data).data =
      ((p.blocks.set k (.held data)).filterMap Block.data?).flatten := by
  rw [Piece.data, blocks_modify_held]

theorem isComplete_modify_held_iff : (p.modify k fun _ => .held data).isComplete = true ↔
    ∀ j b, j ≠ k → p.blocks[j]? = some b → b.isRetrieved = true := by
  rw [isComplete, List.all_eq_true]
  constructor
  · intro arrived j b apart place
    rw [← blocks_modify_off p (fun _ => .held data) apart] at place
    exact arrived b (List.mem_of_getElem? place)
  · intro others b member
    obtain ⟨j, place⟩ := List.mem_iff_getElem?.1 member
    rcases blocks_modify_cases place with ⟨_, _, _, rfl⟩ | ⟨apart, before⟩
    · rfl
    · exact others j b apart before

theorem release_modify_held (complete : (p.modify k fun _ => .held data).isComplete = true) :
    (p.modify k fun _ => .held data).release = p.map fun _ => .released := by
  refine Same.eq ⟨rfl, rfl, rfl⟩ ?_
  have arrived := List.all_eq_true.1 complete
  have length : (p.modify k fun _ => .held data).blocks.length = p.blocks.length := by
    rw [blocks_modify_held, List.length_set]
  calc
    (p.modify k fun _ => .held data).release.blocks
    _ = (p.modify k fun _ => .held data).blocks.map fun _ => .released :=
      List.map_congr_left fun b member => Block.release_of_isRetrieved (arrived b member)
    _ = p.blocks.map fun _ => .released := by rw [List.map_const', List.map_const', length]

end Complete

/-! ### The octets of a complete piece -/

private theorem length_flatten_held (length : Nat) (blocks : List Block) (first : Nat)
    (full : ∀ k b, blocks[k]? = some b → ∃ data, b = .held data ∧
      data.length = min blockSize (length - blockOffset (first + k))) :
    (blocks.filterMap Block.data?).flatten.length =
      min (blocks.length * blockSize) (length - blockOffset first) := by
  induction blocks generalizing first with
  | nil => simp
  | cons b rest ih =>
    obtain ⟨data, rfl, here⟩ := full 0 b rfl
    have later := ih (first + 1) (by
      intro k b found
      obtain ⟨data, held, size⟩ := full (k + 1) b found
      exact ⟨data, held, by rwa [show first + 1 + k = first + (k + 1) by omega]⟩)
    simp only [List.filterMap_cons, Block.data?_held, List.flatten_cons, List.length_append,
      List.length_cons, later, here, Nat.add_zero]
    unfold blockOffset blockSize
    omega

theorem length_data {p : Piece}
    (full : ∀ k b, p.blocks[k]? = some b → ∃ data, b = .held data ∧
      data.length = p.blockLength k) : p.data.length = p.length := by
  have total := length_flatten_held p.length p.blocks 0 (by
    intro k b found
    obtain ⟨data, held, size⟩ := full k b found
    exact ⟨data, held, by rwa [Nat.zero_add]⟩)
  rw [data, total, p.blocks_length]
  unfold blockCount blockOffset blockSize
  omega

private theorem flatten_slices (whole : Bytes) (start length : Nat) (blocks : List Block)
    (first : Nat) (enough : length ≤ blockOffset (first + blocks.length))
    (full : ∀ (k : Nat) (b : Block), blocks[k]? = some b →
      b = .held ((whole.drop (start + blockOffset (first + k))).take
        (min blockSize (length - blockOffset (first + k))))) :
    (blocks.filterMap Block.data?).flatten =
      (whole.drop (start + blockOffset first)).take (length - blockOffset first) := by
  induction blocks generalizing first with
  | nil =>
    rw [List.length_nil, Nat.add_zero] at enough
    rw [Nat.sub_eq_zero_of_le enough, List.take_zero]
    rfl
  | cons b rest ih =>
    obtain rfl := full 0 b rfl
    have later := ih (first + 1) (by rwa [Nat.add_assoc, Nat.add_comm 1]) (by
      intro k b found
      rw [full (k + 1) b found, show first + (k + 1) = first + 1 + k by omega])
    rw [List.filterMap_cons, Block.data?_held, List.flatten_cons, later, blockOffset_succ,
      Nat.add_zero]
    rcases Nat.le_total blockSize (length - blockOffset first) with enough | short
    · have behind : whole.drop (start + (blockOffset first + blockSize)) =
          (whole.drop (start + blockOffset first)).drop blockSize := by
        rw [List.drop_drop, Nat.add_assoc]
      rw [Nat.min_eq_left enough, behind, ← List.take_add,
        show blockSize + (length - (blockOffset first + blockSize)) = length - blockOffset first by
          omega]
    · rw [Nat.min_eq_right short, show length - (blockOffset first + blockSize) = 0 by omega,
        List.take_zero, List.append_nil]

/-- The octets of a piece, each block of which is here with the octets of some whole from its place
on, are those of the whole from the place of the piece on. -/
theorem data_eq_slice {p : Piece} (whole : Bytes) (start : Nat)
    (full : ∀ (k : Nat) (b : Block), p.blocks[k]? = some b →
      b = .held ((whole.drop (start + blockOffset k)).take (p.blockLength k))) :
    p.data = (whole.drop start).take p.length := by
  have enough : p.length ≤ blockOffset (0 + p.blocks.length) := by
    rw [Nat.zero_add]
    exact p.length_le_blockOffset
  have total := flatten_slices whole start p.length p.blocks 0 enough (by
    intro k b found
    rw [full k b found, Nat.zero_add]
    rfl)
  rw [data, total, blockOffset, Nat.zero_mul, Nat.add_zero, Nat.sub_zero]

end Piece

end Swarm
