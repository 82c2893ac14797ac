import Mathlib.Data.List.Induction
import Swarm.Proofs.Piece.Blocks

/-!
A piece that is filled from new: any blocks in any order, with requests made in between.

What a piece holds is told by the calls alone. Whether a block is taken in depends on where it lies
and how long it is, never on what came before, so for each block the last one that fits is the one
that is kept (`last?`). The piece has these in the order of their places, whatever the order in
which they came.
-/

namespace Swarm.Piece

inductive Call where
  | receive (offset : Nat) (data : Bytes)
  | takeMissing
  | markRequested (offset : Nat)

/-- The piece after a call. One that is refused, or finds nothing to ask for, leaves it as it is. -/
def call (p : Piece) : Call → Piece
  | .receive offset data =>
    match p.receive offset data with
    | .ok q => q
    | .error _ => p
  | .takeMissing =>
    match p.takeMissing with
    | some (_, q) => q
    | none => p
  | .markRequested offset => p.markRequested offset

def after (p : Piece) (calls : List Call) : Piece := calls.foldl call p

def IsBlock (length k offset : Nat) (data : Bytes) : Prop :=
  offset = k * blockSize ∧ k * blockSize < length ∧
    data.length = min blockSize (length - k * blockSize)

instance (length k offset : Nat) (data : Bytes) : Decidable (IsBlock length k offset data) :=
  inferInstanceAs (Decidable (_ ∧ _ ∧ _))

def Call.block? (length k : Nat) : Call → Option Bytes
  | .receive offset data => if IsBlock length k offset data then some data else none
  | _ => none

def last? (length : Nat) (calls : List Call) (k : Nat) : Option Bytes :=
  calls.reverse.findSome? (Call.block? length k)

variable {p q : Piece} {length index k offset : Nat} {hash : Digest} {calls : List Call} {c : Call}
  {data : Bytes}

theorem after_append (p : Piece) (first later : List Call) :
    p.after (first ++ later) = (p.after first).after later := List.foldl_append

theorem lt_blockCount_iff : k < blockCount length ↔ k * blockSize < length := by
  unfold blockCount blockSize
  omega

/-- A piece takes in the blocks of its length, in whatever state it is. -/
theorem receive_eq_ok_iff_isBlock : p.receive offset data = .ok q ↔
    ∃ k, IsBlock p.length k offset data ∧ q = p.modify k fun _ => .held data := by
  rw [receive_eq_ok_iff]
  apply exists_congr
  intro k
  rw [p.blocks_length, lt_blockCount_iff, IsBlock, and_assoc, and_assoc]
  rfl

theorem IsBlock.unique {j : Nat} (first : IsBlock length j offset data)
    (second : IsBlock length k offset data) : j = k :=
  blockOffset_injective (first.1.symm.trans second.1)

/-! ### What was brought last -/

theorem last?_append (length : Nat) (calls : List Call) (c : Call) (k : Nat) :
    last? length (calls ++ [c]) k = (c.block? length k).or (last? length calls k) := by
  rw [last?, List.reverse_append, List.reverse_singleton, List.singleton_append,
    List.findSome?_cons]
  cases c.block? length k <;> rfl

theorem block?_eq_some_iff :
    c.block? length k = some data ↔ ∃ offset, c = .receive offset data ∧
      IsBlock length k offset data := by
  cases c with
  | receive offset other =>
    rw [Call.block?, Option.ite_none_right_eq_some, Option.some.injEq]
    constructor
    · intro fits
      obtain ⟨block, rfl⟩ := fits
      exact ⟨offset, rfl, block⟩
    · intro same
      obtain ⟨place, same, block⟩ := same
      cases same
      exact ⟨block, rfl⟩
  | takeMissing => simp [Call.block?]
  | markRequested offset => simp [Call.block?]

theorem isSome_last?_iff : (last? length calls k).isSome = true ↔
    ∃ data, .receive (k * blockSize) data ∈ calls ∧ IsBlock length k (k * blockSize) data := by
  rw [last?, List.isSome_findSome?, List.any_eq_true]
  constructor
  · intro brought
    obtain ⟨c, member, some⟩ := brought
    obtain ⟨data, here⟩ := Option.isSome_iff_exists.1 some
    obtain ⟨offset, rfl, block⟩ := block?_eq_some_iff.1 here
    cases block.1
    exact ⟨data, List.mem_reverse.1 member, block⟩
  · intro brought
    obtain ⟨data, member, block⟩ := brought
    have here := block?_eq_some_iff.2 ⟨_, rfl, block⟩
    exact ⟨_, List.mem_reverse.2 member, by rw [here]; rfl⟩

theorem length_of_last? (brought : last? length calls k = some data) :
    k * blockSize < length ∧ data.length = min blockSize (length - k * blockSize) := by
  obtain ⟨c, -, here⟩ := List.exists_of_findSome?_eq_some brought
  obtain ⟨offset, -, block⟩ := block?_eq_some_iff.1 here
  exact block.2

/-! ### What a piece keeps of the calls -/

/-- The piece has been filled by the calls: each of its blocks is here exactly as it was brought
last. -/
structure FilledBy (p new : Piece) (calls : List Call) : Prop where
  same : Same p new
  kept : ∀ k b, p.blocks[k]? = some b → b ≠ .released ∧ b.data? = last? new.length calls k

theorem filledBy_empty (index length : Nat) (hash : Digest) :
    FilledBy (empty index length hash) (empty index length hash) [] where
  same := ⟨rfl, rfl, rfl⟩
  kept := by
    intro k b found
    obtain rfl : b = .missing := List.eq_of_mem_replicate (List.mem_of_getElem? found)
    exact ⟨nofun, rfl⟩

theorem FilledBy.request {new : Piece} (filled : FilledBy p new calls) (j : Nat) :
    FilledBy (p.modify j Block.request) new calls where
  same := (same_modify p j _).trans filled.same
  kept := by
    intro k b found
    rcases blocks_modify_cases found with ⟨rfl, old, known, rfl⟩ | ⟨-, before⟩
    · obtain ⟨kept, here⟩ := filled.kept k old known
      cases old with
      | missing => exact ⟨nofun, here⟩
      | requested => exact ⟨kept, here⟩
      | held data => exact ⟨kept, here⟩
      | released => exact absurd rfl kept
    · exact filled.kept k b before

theorem FilledBy.ignore {new : Piece} (filled : FilledBy p new calls)
    (nothing : ∀ k, c.block? new.length k = none) : FilledBy p new (calls ++ [c]) where
  same := filled.same
  kept := by
    intro k b found
    rw [last?_append, nothing k, Option.none_or]
    exact filled.kept k b found

theorem FilledBy.hold {new : Piece} (filled : FilledBy p new calls)
    (block : IsBlock new.length k offset data) :
    FilledBy (p.modify k fun _ => .held data) new (calls ++ [.receive offset data]) where
  same := (same_modify p k _).trans filled.same
  kept := by
    intro j b found
    rw [last?_append]
    rcases blocks_modify_cases found with ⟨rfl, _, _, rfl⟩ | ⟨apart, before⟩
    · rw [block?_eq_some_iff.2 ⟨offset, rfl, block⟩]
      exact ⟨nofun, rfl⟩
    · have other : (Call.receive offset data).block? new.length j = none :=
        if_neg fun wrong => apart (wrong.unique block)
      rw [other, Option.none_or]
      exact filled.kept j b before

theorem FilledBy.call {new : Piece} (filled : FilledBy p new calls) (c : Call) :
    FilledBy (p.call c) new (calls ++ [c]) := by
  cases c with
  | receive offset data =>
    rw [Piece.call]
    cases received : p.receive offset data with
    | ok q =>
      obtain ⟨k, block, rfl⟩ := receive_eq_ok_iff_isBlock.1 received
      rw [filled.same.length] at block
      exact filled.hold block
    | error e =>
      apply filled.ignore
      intro k
      apply if_neg
      intro block
      rw [← filled.same.length] at block
      cases received.symm.trans (receive_eq_ok_iff_isBlock.2 ⟨k, block, rfl⟩)
  | takeMissing =>
    rw [Piece.call]
    apply FilledBy.ignore _ fun _ => rfl
    cases taken : p.takeMissing with
    | none => exact filled
    | some result =>
      obtain ⟨k, -, -, same⟩ := takeMissing_eq_some (r := result.1) (q := result.2) taken
      dsimp only
      rw [same]
      exact filled.request k
  | markRequested offset =>
    rw [Piece.call, Piece.markRequested]
    apply FilledBy.ignore _ fun _ => rfl
    cases p.blockAt? offset with
    | none => exact filled
    | some k => exact filled.request k

theorem filledBy_after (index length : Nat) (hash : Digest) (calls : List Call) :
    FilledBy ((empty index length hash).after calls) (empty index length hash) calls := by
  induction calls using List.reverseRecOn with
  | nil => exact filledBy_empty index length hash
  | append_singleton calls c ih =>
    rw [after_append]
    exact ih.call c

/-! ### The blocks put together -/

namespace FilledBy

variable {new : Piece}

theorem map_data? (filled : FilledBy p new calls) : p.blocks.map Block.data? =
    (List.range (blockCount new.length)).map (last? new.length calls) := by
  have count : p.blocks.length = blockCount new.length := by
    rw [p.blocks_length, filled.same.length]
  apply List.ext_getElem?
  intro k
  rw [List.getElem?_map, List.getElem?_map]
  by_cases inside : k < p.blocks.length
  · have here := List.getElem?_eq_getElem inside
    rw [here, List.getElem?_range (count ▸ inside), Option.map_some, Option.map_some,
      (filled.kept k _ here).2]
  · rw [List.getElem?_eq_none (Nat.le_of_not_lt inside), List.getElem?_eq_none (by simp; omega)]
    rfl

theorem data_eq (filled : FilledBy p new calls) : p.data =
    ((List.range (blockCount new.length)).filterMap (last? new.length calls)).flatten := by
  have parts := congrArg (List.filterMap id) filled.map_data?
  rw [List.filterMap_map, List.filterMap_map, Function.id_comp, Function.id_comp] at parts
  rw [data, parts]

theorem isRetrieved_iff (filled : FilledBy p new calls) {b : Block}
    (found : p.blocks[k]? = some b) :
    b.isRetrieved = true ↔ (last? new.length calls k).isSome = true := by
  obtain ⟨kept, here⟩ := filled.kept k b found
  rw [← here]
  cases b with
  | released => exact absurd rfl kept
  | _ => exact Iff.rfl

theorem isComplete_iff (filled : FilledBy p new calls) : p.isComplete = true ↔
    ∀ k, k * blockSize < new.length → (last? new.length calls k).isSome = true := by
  rw [isComplete, List.all_eq_true]
  constructor
  · intro arrived k inside
    have place : k < p.blocks.length := by
      rw [p.blocks_length, filled.same.length]
      exact lt_blockCount_iff.2 inside
    have found := List.getElem?_eq_getElem place
    exact (filled.isRetrieved_iff found).1 (arrived _ (List.mem_of_getElem? found))
  · intro brought b member
    obtain ⟨k, found⟩ := List.mem_iff_getElem?.1 member
    have place := (List.getElem?_eq_some_iff.1 found).1
    rw [p.blocks_length, filled.same.length] at place
    exact (filled.isRetrieved_iff found).2 (brought k (lt_blockCount_iff.1 place))

theorem length_data_of_complete (filled : FilledBy p new calls) (complete : p.isComplete = true) :
    p.data.length = new.length := by
  rw [← filled.same.length]
  apply length_data
  intro k b found
  obtain ⟨kept, here⟩ := filled.kept k b found
  have arrived := List.all_eq_true.1 complete b (List.mem_of_getElem? found)
  obtain ⟨data, rfl⟩ := Block.exists_held arrived kept
  refine ⟨data, rfl, ?_⟩
  rw [filled.same.blockLength]
  exact (length_of_last? here.symm).2

theorem reset_eq (filled : FilledBy p (empty index length hash) calls) :
    p.reset = empty index length hash := by
  apply ((same_map p _).trans filled.same).eq
  have count : p.blocks.length = blockCount length := by
    rw [p.blocks_length, filled.same.length]
    rfl
  calc
    p.reset.blocks = p.blocks.map fun _ => .missing := rfl
    _ = List.replicate (blockCount length) .missing := by rw [List.map_const', count]

end FilledBy

/-- A piece that is filled from new, with any calls in any order, takes in a block whenever it is
one of the piece in place and length, and nothing else. It is complete once each of its blocks was
brought, and its octets are the blocks as they were brought last, in the order of their places: all
of the piece once it is complete, and what its digest is taken of. The order of the calls does not
matter beyond that. Begun again, the piece is as new. -/
theorem assembled (index length : Nat) (hash : Digest) (calls : List Call) :
    let new := empty index length hash
    let p := new.after calls
    let octets := ((List.range (blockCount length)).filterMap (last? length calls)).flatten
    (∀ offset data, (∃ q, p.receive offset data = .ok q) ↔ ∃ k, IsBlock length k offset data) ∧
    (p.isComplete = true ↔ ∀ k, k * blockSize < length →
      ∃ data, .receive (k * blockSize) data ∈ calls ∧ IsBlock length k (k * blockSize) data) ∧
    p.data = octets ∧
    (p.isComplete = true → octets.length = length) ∧
    (p.hashMatches = true ↔ sha1 octets = hash) ∧
    (∀ others, (∀ k, last? length others k = last? length calls k) →
      (new.after others).data = p.data) ∧
    p.reset = new := by
  intro new p octets
  have filled : FilledBy p new calls := filledBy_after index length hash calls
  have assembled : p.data = octets := filled.data_eq
  refine ⟨?_, ?_, assembled, ?_, ?_, ?_, filled.reset_eq⟩
  · intro offset data
    simp only [receive_eq_ok_iff_isBlock, filled.same.length]
    constructor
    · intro taken
      obtain ⟨_, k, block, -⟩ := taken
      exact ⟨k, block⟩
    · intro fits
      obtain ⟨k, block⟩ := fits
      exact ⟨_, k, block, rfl⟩
  · simp only [filled.isComplete_iff, isSome_last?_iff]
    rfl
  · intro complete
    rw [← assembled]
    exact filled.length_data_of_complete complete
  · rw [hashMatches, assembled, filled.same.hash, beq_iff_eq]
    rfl
  · intro others same
    rw [assembled, (filledBy_after index length hash others).data_eq]
    exact congrArg _ (List.filterMap_congr fun k _ => same k)

end Swarm.Piece
