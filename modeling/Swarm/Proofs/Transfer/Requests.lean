import Swarm.Proofs.Transfer.Steps

/-!
The requests that are out, over a whole run: there is one for each block that is waited for, and
none besides. A block that comes late for a piece that is done therefore finds nothing to clear.
-/

namespace Swarm.Transfer

open Storage (OutputFile)

namespace Sound

variable {t : Transfer} {i : Nat} {p : Piece}

/-- Only pieces that were begun wait for blocks. -/
theorem ongoing_of_requested (sound : t.Sound) (found : t.pieces[i]? = some p)
    (asked : .requested ∈ p.blocks) : i ∈ t.ongoing := by
  have suits := sound.suits i p found
  rcases sound.mem_pools.2 (sound.lt_of_piece found) with waiting | begun | done
  · cases suits.fresh waiting _ asked
  · exact begun
  · cases suits.done done _ asked

/-- A request that is out tells the place and the length of a block that is waited for. -/
theorem mem_requests_iff (sound : t.Sound) {r : BlockRequest} :
    r ∈ t.requests ↔ ∃ p k, t.pieces[r.piece]? = some p ∧ p.blocks[k]? = some .requested ∧
      r.offset = Piece.blockOffset k ∧ r.length = p.blockLength k := by
  rw [sound.requests_iff r]
  constructor
  · intro waited
    obtain ⟨p, found, k, asked, request⟩ := waited
    rw [sound.requestFor_eq found (List.getElem?_eq_some_iff.1 asked).1] at request
    exact ⟨p, k, found, asked, congrArg BlockRequest.offset request,
      congrArg BlockRequest.length request⟩
  · intro block
    obtain ⟨p, k, found, asked, start, size⟩ := block
    refine ⟨p, found, k, asked, ?_⟩
    rw [sound.requestFor_eq found (List.getElem?_eq_some_iff.1 asked).1, ← start, ← size]

end Sound

/-- In every state that a download comes to, no block is asked for twice, and the requests that are
out are those for the blocks that are waited for, all of pieces that were begun. -/
theorem requests_exact {c : Content} (wf : c.WellFormed) (maxPeers requestTimeout : Nat)
    (file : OutputFile) (calls : List Call) :
    let t := (start c maxPeers requestTimeout file).after calls
    (t.requests.map BlockRequest.place).Nodup ∧
    (∀ r, r ∈ t.requests ↔ ∃ p k, t.pieces[r.piece]? = some p ∧
      p.blocks[k]? = some .requested ∧ r.offset = k * blockSize ∧ r.length = p.blockLength k) ∧
    (∀ i p, t.pieces[i]? = some p → .requested ∈ p.blocks → i ∈ t.ongoing) ∧
    (∀ i ∈ t.finished, ∀ offset data disk,
      t.deliver i offset data disk = (.ok .alreadyFinished, t)) := by
  intro t
  have sound : t.Sound := sound_after wf maxPeers requestTimeout file calls
  refine ⟨sound.places, fun r => sound.mem_requests_iff, ?_, ?_⟩
  · intro i p found asked
    exact sound.ongoing_of_requested found asked
  · intro i done offset data disk
    exact sound.deliver_of_finished done offset data disk

theorem requests_exact_sample :
    let t := (start Sample.content 4 1000 (.ofContent "out" 3 [9])).after Sample.calls
    Sample.content.WellFormed ∧ t.requests = [⟨1, 0, 1⟩] ∧ t.finished = [0] ∧ 1 ∈ t.ongoing ∧
      t.deliver 0 7 [4, 5] .smooth = (.ok .alreadyFinished, t) := by
  intro t
  have requests : t.requests = [⟨1, 0, 1⟩] := by decide +kernel
  have finished : t.finished = [0] := by decide +kernel
  obtain ⟨_, asked, begun, late⟩ :=
    requests_exact Sample.wellFormed 4 1000 (.ofContent "out" 3 [9]) Sample.calls
  obtain ⟨p, k, found, waiting, _⟩ := (asked ⟨1, 0, 1⟩).1 (by rw [requests]; simp)
  refine ⟨Sample.wellFormed, requests, finished, ?_, ?_⟩
  · exact begun 1 p found (List.mem_of_getElem? waiting)
  · exact late 0 (by rw [finished]; simp) 7 [4, 5] .smooth

end Swarm.Transfer
