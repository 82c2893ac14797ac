import Swarm.Proofs.Transfer.Disk

/-!
What becomes of a block that is taken in while the system carries out its writes. Which of the three
outcomes it has is decided by the other blocks of its piece and by the digest of the piece put
together, and apart from the piece, its requests and its place in the file nothing changes.
-/

namespace Swarm.Transfer

open Storage (DiskOutcome OutputFile Tree)

variable {t : Transfer} {i k : Nat} {p : Piece} {data : Bytes} {disk : DiskOutcome}

/-- When a piece is complete, the block that completed it was the last one that could be waited
for. -/
theorem Sound.dropBlock_of_complete (sound : t.Sound) (found : t.pieces[i]? = some p)
    (others : ∀ j b, j ≠ k → p.blocks[j]? = some b → b.isRetrieved = true) :
    dropBlock i (Piece.blockOffset k) t.openRequests = dropPiece i t.openRequests := by
  refine List.filter_congr fun o out => ?_
  by_cases here : o.request.piece = i
  · have listed : o.request ∈ t.requests := List.mem_map_of_mem out
    obtain ⟨j, asked, request⟩ := (sound.mem_requests found here).1 listed
    have inside := (List.getElem?_eq_some_iff.1 asked).1
    have same : j = k := by
      by_contra apart
      cases others j _ apart asked
    have start : o.request.offset = Piece.blockOffset k := by
      rw [request, sound.requestFor_eq found inside, same]
    simp [here, start]
  · rw [bne, beq_eq_false_iff_ne.2 here]
    rfl

theorem Sound.conclude_eq (sound : t.Sound) (found : t.pieces[i]? = some p)
    (complete : (p.modify k fun _ => .held data).isComplete = true) (file : OutputFile) :
    t.conclude i p k data file = { t with
      pieces := t.pieces.set i (p.map fun _ => .released)
      ongoing := t.ongoing.filter (· != i)
      finished := i :: t.finished
      openRequests := dropPiece i t.openRequests
      downloaded := t.downloaded + (p.modify k fun _ => .held data).data.length
      file := file } := by
  have others := Piece.isComplete_modify_held_iff.1 complete
  rw [Transfer.conclude, Piece.release_modify_held complete,
    sound.dropBlock_of_complete found others]

theorem Sound.deliver_of_fits (sound : t.Sound) (begun : i ∈ t.ongoing)
    (found : t.pieces[i]? = some p) (inside : k < p.blocks.length)
    (fits : data.length = p.blockLength k) (disk : DiskOutcome) :
    t.deliver i (Piece.blockOffset k) data disk =
      t.accept i (Piece.blockOffset k) (p.modify k fun _ => .held data) disk := by
  have taken := Piece.receive_eq_ok_iff.2 ⟨k, rfl, inside, fits, rfl⟩
  simp only [sound.deliver_of_begun begun found, taken]

theorem accept_of_unfinished (unfinished : (p.modify k fun _ => .held data).isComplete = false) :
    t.accept i (Piece.blockOffset k) (p.modify k fun _ => .held data) disk =
      (.ok .stored, t.store i p k data) := by
  simp only [accept, unfinished, Bool.false_eq_true, not_false_eq_true, if_true, store]

theorem accept_of_wrong (found : t.pieces[i]? = some p)
    (complete : (p.modify k fun _ => .held data).isComplete = true)
    (wrong : (p.modify k fun _ => .held data).hashMatches = false) :
    t.accept i (Piece.blockOffset k) (p.modify k fun _ => .held data) disk =
      (.ok .rejected, t.discard i p t.file) := by
  have again : (t.store i p k data).restart i = t.discard i p t.file :=
    restart_store found k data t.file
  rw [← again]
  simp only [accept, complete, wrong, not_true_eq_false, Bool.false_eq_true, not_false_eq_true,
    if_true, if_false, store]

/-- A complete piece with the right digest is written and done, unless the system fails. -/
theorem Sound.accept_of_right (sound : t.Sound) (full : t.file.length = t.content.length)
    (begun : i ∈ t.ongoing) (found : t.pieces[i]? = some p) (fits : data.length = p.blockLength k)
    (complete : (p.modify k fun _ => .held data).isComplete = true)
    (right : (p.modify k fun _ => .held data).hashMatches = true) (works : disk.Writes)
    (synced : disk.sync = none) :
    t.accept i (Piece.blockOffset k) (p.modify k fun _ => .held data) disk = (.ok .verified,
      t.conclude i p k data
        (t.file.put (t.content.pieceOffset i) (p.modify k fun _ => .held data).data)) := by
  have written : (t.store i p k data).file.writeAt disk
      (i * (t.store i p k data).content.pieceLength) (p.modify k fun _ => .held data).data =
        (.ok (), t.file.put (t.content.pieceOffset i) (p.modify k fun _ => .held data).data) :=
    sound.writeAt_of_writes full begun found fits complete works
  have committed : t.accept i (Piece.blockOffset k) (p.modify k fun _ => .held data) disk =
      (t.store i p k data).commit i (p.modify k fun _ => .held data).data disk := by
    simp only [accept, complete, right, not_true_eq_false, if_false]
    rfl
  rw [committed, commit, written]
  simp only [finish_store found, OutputFile.sync, synced, ite_self]

theorem Sound.hashMatches_iff (sound : t.Sound) (found : t.pieces[i]? = some p) :
    (p.modify k fun _ => .held data).hashMatches = true ↔ t.content.pieceHash? i =
      some (sha1 ((p.blocks.set k (.held data)).filterMap Block.data?).flatten) := by
  have own : (p.modify k fun _ => .held data).hash = p.hash := rfl
  rw [Piece.hashMatches, beq_iff_eq, own, Piece.data_modify_held, (sound.suits i p found).hash,
    Option.some.injEq, eq_comm]

/-- In every state that a download comes to, a block that fits its place in a piece that was begun
is stored if another one of the piece is not here. Otherwise the digest decides: the piece is
written in its place and done, or begun again. All else stays as it is. -/
theorem deliver_by_rule {c : Content} (wf : c.WellFormed) {tree : Tree} {path : String}
    {file : OutputFile} (created : OutputFile.create tree path c.length = .ok file)
    (maxPeers requestTimeout : Nat) (calls : List Call) (i k : Nat) (p : Piece) (data : Bytes)
    (disk : DiskOutcome) :
    let t := (start c maxPeers requestTimeout file).after calls
    i ∈ t.ongoing → t.pieces[i]? = some p → k < p.blocks.length → data.length = p.blockLength k →
    let offset := k * blockSize
    let place := i * c.pieceLength
    let octets := ((p.blocks.set k (.held data)).filterMap Block.data?).flatten
    let others := ∀ j b, j ≠ k → p.blocks[j]? = some b → b.isRetrieved = true
    (¬ others → t.deliver i offset data disk = (.ok .stored, { t with
      pieces := t.pieces.set i (p.modify k fun _ => .held data)
      openRequests := t.openRequests.filter fun o => o.request.place != (i, offset) })) ∧
    (others → c.pieceHash? i = some (sha1 octets) → disk.Writes → disk.sync = none →
      t.deliver i offset data disk = (.ok .verified, { t with
        pieces := t.pieces.set i (p.map fun _ => .released)
        ongoing := t.ongoing.filter (· != i)
        finished := i :: t.finished
        openRequests := t.openRequests.filter fun o => o.request.piece != i
        downloaded := t.downloaded + octets.length
        file := t.file.put place octets }) ∧
      (t.file.put place octets).content = t.file.content.take place ++ octets ++
        t.file.content.drop (place + octets.length)) ∧
    (others → c.pieceHash? i ≠ some (sha1 octets) →
      t.deliver i offset data disk = (.ok .rejected, { t with
        pieces := t.pieces.set i (p.map fun _ => .missing)
        openRequests := t.openRequests.filter fun o => o.request.piece != i })) := by
  intro t begun found inside fits offset place octets others
  obtain ⟨earlier, rfl⟩ := OutputFile.exists_ofContent_of_create created
  have first := Sound.start wf maxPeers requestTimeout (.ofContent path c.length earlier)
  have sound : t.Sound := first.after calls
  have content : t.content = c := (first.settings_after calls).1
  have full : t.file.length = t.content.length :=
    (first.after_saved (saved_start maxPeers requestTimeout rfl) calls).1.length
  have taken := sound.deliver_of_fits begun found inside fits disk
  have complete : (p.modify k fun _ => .held data).isComplete = true ↔ others :=
    Piece.isComplete_modify_held_iff
  have digest : (p.modify k fun _ => .held data).hashMatches = true ↔
      c.pieceHash? i = some (sha1 octets) := content ▸ sound.hashMatches_iff found
  have assembled : (p.modify k fun _ => .held data).data = octets := p.data_modify_held k data
  have start : t.content.pieceOffset i = place := congrArg (Content.pieceOffset · i) content
  refine ⟨?_, ?_, ?_⟩
  · intro unfinished
    exact taken.trans (accept_of_unfinished (Bool.eq_false_iff.2 (mt complete.1 unfinished)))
  · intro arrived right works synced
    have whole := complete.2 arrived
    have room := of_decide_eq_true (sound.holds_piece full begun found fits whole)
    rw [assembled, start] at room
    have outcome := taken.trans
      (sound.accept_of_right full begun found fits whole (digest.2 right) works synced)
    rw [sound.conclude_eq found whole, assembled, start] at outcome
    exact ⟨outcome, OutputFile.content_put_eq room⟩
  · intro arrived wrong
    have whole := complete.2 arrived
    exact taken.trans (accept_of_wrong found whole (Bool.eq_false_iff.2 (mt digest.1 wrong)))

theorem deliver_by_rule_sample :
    let file : OutputFile := .ofContent "out" 3 [9, 9, 9, 9]
    let t := (start Sample.content 4 1000 file).after
      [.register Sample.peer [192], .pick Sample.peer 0, .pick Sample.peer 5]
    let u := (t.deliver 0 0 [1, 2] .smooth).2
    Sample.content.WellFormed ∧
      OutputFile.create ⟨[(["out"], .file [9, 9, 9, 9])], 4096⟩ "out" 3 = .ok file ∧
      t.ongoing = [0, 1] ∧ t.openRequests = [⟨⟨0, 0, 2⟩, 0⟩, ⟨⟨1, 0, 1⟩, 5⟩] ∧
      (t.deliver 0 0 [1, 2] .smooth).1 = .ok .verified ∧ u.ongoing = [1] ∧
      u.openRequests = [⟨⟨1, 0, 1⟩, 5⟩] ∧ u.file.content = [1, 2, 9] := by
  intro file t u
  have created : OutputFile.create ⟨[(["out"], .file [9, 9, 9, 9])], 4096⟩ "out" 3 = .ok file :=
    Sample.created
  have ongoing : t.ongoing = [0, 1] := by decide +kernel
  have out : t.openRequests = [⟨⟨0, 0, 2⟩, 0⟩, ⟨⟨1, 0, 1⟩, 5⟩] := by decide +kernel
  have before : t.file.content = [9, 9, 9] := by decide +kernel
  have state : t.pieces[0]?.map (fun p => (p.blocks, p.length)) = some ([.requested], 2) := by
    decide +kernel
  obtain ⟨p, found, same⟩ := Option.map_eq_some_iff.1 state
  obtain ⟨blocks, length⟩ := Prod.mk.inj same
  have alone : ∀ j b, j ≠ 0 → p.blocks[j]? = some b → b.isRetrieved = true := by
    intro j b apart place
    rw [blocks, List.getElem?_eq_none (Nat.one_le_iff_ne_zero.2 apart)] at place
    cases place
  obtain ⟨-, verified, -⟩ := deliver_by_rule Sample.wellFormed created 4 1000
    [.register Sample.peer [192], .pick Sample.peer 0, .pick Sample.peer 5] 0 0 p [1, 2] .smooth
    (show 0 ∈ t.ongoing by simp [ongoing]) found (by simp [blocks])
    (by rw [Piece.blockLength, length]; decide)
  obtain ⟨outcome, content⟩ := verified alone (by rw [blocks]; decide +kernel)
    DiskOutcome.writes_smooth rfl
  rw [Nat.zero_mul] at outcome
  have answer : (t.deliver 0 0 [1, 2] .smooth).1 = .ok .verified := congrArg Prod.fst outcome
  have begun : u.ongoing = t.ongoing.filter (· != 0) := by
    show (t.deliver 0 0 [1, 2] .smooth).2.ongoing = _
    rw [outcome]
  have left : u.openRequests = t.openRequests.filter (·.request.piece != 0) := by
    show (t.deliver 0 0 [1, 2] .smooth).2.openRequests = _
    rw [outcome]
  have saved : u.file.content = [1, 2, 9] := by
    show (t.deliver 0 0 [1, 2] .smooth).2.file.content = _
    rw [outcome, content, blocks, before]
    rfl
  refine ⟨Sample.wellFormed, created, ongoing, out, answer, ?_, ?_, saved⟩
  · rw [begun, ongoing]
    rfl
  · rw [left, out]
    rfl

end Swarm.Transfer
