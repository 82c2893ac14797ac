import Mathlib.Algebra.Ring.Nat
import Mathlib.Data.List.Basic
import Swarm.Proofs.Torrent.Layout

/-!
The octets of a file, piece by piece. The pieces cover the file, so the sizes of all pieces add up
to its length, and two files that agree in every piece are the same. The description of some data is
well-formed and has the digest of each piece of the data.
-/

namespace Swarm

theorem Bytes.getElem?_records (n count : Nat) (b : Bytes) (i : Nat) :
    (records n count b)[i]? = if i < count then some ((b.drop (i * n)).take n) else none := by
  induction count generalizing b i with
  | zero => rfl
  | succ count ih =>
    cases i with
    | zero => simp [records]
    | succ i =>
      rw [records, List.getElem?_cons_succ, ih, List.drop_drop, Nat.succ_mul, Nat.add_comm n]
      simp only [Nat.add_lt_add_iff_right]

theorem Bytes.length_records (n count : Nat) (b : Bytes) : (records n count b).length = count := by
  induction count generalizing b with
  | zero => rfl
  | succ count ih => rw [records, List.length_cons, ih]

namespace Content

def octets (c : Content) (file : Bytes) (i : Nat) : Bytes :=
  (file.drop (c.pieceOffset i)).take (c.sizeAt i)

structure Describes (c : Content) (data : Bytes) : Prop where
  length : c.length = data.length
  pieceHash? : ∀ i < c.pieceCount, c.pieceHash? i = some (sha1 (c.octets data i))

variable {c : Content}

/-! ### The pieces cover the file -/

theorem WellFormed.length_le (wf : c.WellFormed) : c.length ≤ c.pieceCount * c.pieceLength := by
  have positive := wf.pieceLength_pos
  rw [wf.pieceCount_eq, expectedPieces, if_neg (by omega)]
  have cover := Nat.div_add_mod (c.length + c.pieceLength - 1) c.pieceLength
  have rest := Nat.mod_lt (c.length + c.pieceLength - 1) positive
  rw [Nat.mul_comm] at cover
  omega

theorem WellFormed.length_lt (wf : c.WellFormed) : c.length < UInt64.size := by
  have count := wf.pieceCount_le
  have limit := wf.pieceLength_le
  calc
    c.length ≤ c.pieceCount * c.pieceLength := wf.length_le
    _ ≤ UInt32.size * maxPieceLength := Nat.mul_le_mul count limit
    _ < UInt64.size := by decide

theorem WellFormed.pieceCount_pos (wf : c.WellFormed) : 0 < c.pieceCount :=
  Nat.pos_of_mul_pos_right (Nat.lt_of_lt_of_le wf.length_pos wf.length_le)

theorem sum_sizeAt_range (c : Content) (n : Nat) :
    ((List.range n).map c.sizeAt).sum = min (n * c.pieceLength) c.length := by
  induction n with
  | zero => simp
  | succ n ih =>
    rw [List.range_succ, List.map_append, List.sum_append, ih, List.map_singleton,
      List.sum_singleton, Nat.succ_mul, sizeAt, pieceOffset]
    omega

theorem WellFormed.sum_sizeAt (wf : c.WellFormed) :
    ((List.range c.pieceCount).map c.sizeAt).sum = c.length := by
  rw [sum_sizeAt_range, Nat.min_eq_right wf.length_le]

theorem WellFormed.eq_of_octets_eq (wf : c.WellFormed) {a b : Bytes} (first : a.length = c.length)
    (second : b.length = c.length) (same : ∀ i < c.pieceCount, c.octets a i = c.octets b i) :
    a = b := by
  have positive := wf.pieceLength_pos
  apply List.ext_getElem?
  intro j
  by_cases inside : j < c.length
  · -- The octet lies in the piece that its place divided by a piece's length names.
    have split := Nat.div_add_mod j c.pieceLength
    have rest := Nat.mod_lt j positive
    rw [Nat.mul_comm] at split
    have known : j / c.pieceLength < c.pieceCount := by
      have cover := wf.length_le
      rw [Nat.div_lt_iff_lt_mul positive]
      omega
    have here := congrArg (·[j % c.pieceLength]?) (same _ known)
    have reach : j % c.pieceLength < c.sizeAt (j / c.pieceLength) := by
      unfold sizeAt pieceOffset
      omega
    simp only [octets, List.getElem?_take, List.getElem?_drop, if_pos reach, pieceOffset,
      split] at here
    exact here
  · rw [List.getElem?_eq_none (by omega), List.getElem?_eq_none (by omega)]

/-! ### The description of some data -/

section OfData

variable {name : String} {pieceLength : Nat} {data : Bytes}

theorem pieceCount_ofData (positive : 0 < pieceLength) :
    (ofData name pieceLength data).pieceCount =
      (data.length + pieceLength - 1) / pieceLength := by
  rw [pieceCount, ofData, List.length_map, Bytes.length_records, if_neg (by omega)]

theorem wellFormed_ofData (filled : data ≠ []) (positive : 0 < pieceLength)
    (limit : pieceLength ≤ maxPieceLength)
    (few : (ofData name pieceLength data).pieceCount ≤ UInt32.size) :
    (ofData name pieceLength data).WellFormed where
  length_pos := List.length_pos_iff.2 filled
  pieceLength_pos := positive
  pieceLength_le := limit
  pieceCount_eq := by
    rw [pieceCount_ofData positive, expectedPieces]
    exact (if_neg (by
      show ¬ pieceLength = 0
      omega)).symm
  pieceCount_le := few

theorem describes_ofData (positive : 0 < pieceLength) :
    (ofData name pieceLength data).Describes data := by
  refine ⟨rfl, ?_⟩
  intro i known
  rw [pieceCount_ofData positive] at known
  have whole : (ofData name pieceLength data).octets data i =
      (data.drop (i * pieceLength)).take pieceLength := by
    rw [List.take_eq_take_min, List.length_drop]
    rfl
  rw [whole, Content.pieceHash?, ofData, List.getElem?_map, if_neg (by omega),
    Bytes.getElem?_records, if_pos known, Option.map_some]

end OfData

end Content

end Swarm
