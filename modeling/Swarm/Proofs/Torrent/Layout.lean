import Mathlib.Data.List.Basic
import Swarm.Torrent.Content

/-!
Where the pieces of a well-formed content lie in its file: each has at least one octet, ends inside
the file, and shares no octet with another.
-/

namespace Swarm.Content

variable {c : Content}

/-- The pieces are those that start inside the file. -/
theorem WellFormed.lt_pieceCount_iff (wf : c.WellFormed) {i : Nat} :
    i < c.pieceCount ↔ c.pieceOffset i < c.length := by
  have positive := wf.pieceLength_pos
  rw [wf.pieceCount_eq, expectedPieces, if_neg (by omega), Nat.lt_div_iff_mul_lt positive,
    pieceOffset]
  omega

theorem WellFormed.pieceOffset_lt (wf : c.WellFormed) {i : Nat} (known : i < c.pieceCount) :
    c.pieceOffset i < c.length := wf.lt_pieceCount_iff.1 known

theorem pieceOffset_succ (c : Content) (i : Nat) :
    c.pieceOffset (i + 1) = c.pieceOffset i + c.pieceLength := Nat.succ_mul i c.pieceLength

theorem WellFormed.sizeAt_pos (wf : c.WellFormed) {i : Nat} (known : i < c.pieceCount) :
    0 < c.sizeAt i := by
  have start := wf.pieceOffset_lt known
  have positive := wf.pieceLength_pos
  unfold sizeAt
  omega

theorem WellFormed.pieceOffset_add_sizeAt_le (wf : c.WellFormed) {i : Nat}
    (known : i < c.pieceCount) : c.pieceOffset i + c.sizeAt i ≤ c.length := by
  have start := wf.pieceOffset_lt known
  unfold sizeAt
  omega

/-- Offsets in a piece have 32 bits. -/
theorem WellFormed.sizeAt_le (wf : c.WellFormed) (i : Nat) : c.sizeAt i ≤ UInt32.size := by
  have limit := wf.pieceLength_le
  unfold maxPieceLength at limit
  unfold sizeAt UInt32.size
  omega

theorem pieceOffset_add_sizeAt_le_of_lt {i j : Nat} (before : i < j) :
    c.pieceOffset i + c.sizeAt i ≤ c.pieceOffset j := by
  have size : c.sizeAt i ≤ c.pieceLength := Nat.min_le_left _ _
  calc
    c.pieceOffset i + c.sizeAt i ≤ i * c.pieceLength + c.pieceLength := Nat.add_le_add_left size _
    _ = (i + 1) * c.pieceLength := (Nat.succ_mul _ _).symm
    _ ≤ c.pieceOffset j := Nat.mul_le_mul_right _ before

theorem pieces_apart {i j : Nat} (different : i ≠ j) :
    c.pieceOffset i + c.sizeAt i ≤ c.pieceOffset j ∨
      c.pieceOffset j + c.sizeAt j ≤ c.pieceOffset i := by
  rcases Nat.lt_or_gt_of_ne different with before | behind
  · exact Or.inl (pieceOffset_add_sizeAt_le_of_lt before)
  · exact Or.inr (pieceOffset_add_sizeAt_le_of_lt behind)

end Swarm.Content
