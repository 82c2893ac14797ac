import Swarm.Proofs.Transfer.Arrival
import Swarm.Proofs.Transfer.Progress

/-!
Blocks that complete a piece which the system then fails to store. Where it does not carry out the
write, the piece is begun again and nothing is counted. Where it carries out the last write of all
and only the sync after it fails, the answer is an error as well, but the piece counts as done.
-/

namespace Swarm.Transfer

open Storage (DiskOutcome OutputFile StorageError Tree)

variable {t next : Transfer} {peer : PeerId} {bits : Bytes} {i offset : Nat} {p : Piece}
  {data : Bytes} {disk : DiskOutcome} {e : StorageError}

theorem Sound.exists_pick_of_missing (sound : t.Sound) (known : t.bitfield? peer = some bits)
    (has : Bitfield.has bits i = true) (undone : i ∉ t.finished) (found : t.pieces[i]? = some p)
    (free : .missing ∈ p.blocks) (now : Nat) : ∃ r, (t.pick peer now).1 = .ok (some r) := by
  obtain ⟨answer, picked⟩ := sound.exists_pick_eq_ok known now
  cases answer with
  | some r => exact ⟨r, picked⟩
  | none =>
    have settled := (sound.pick_eq_none_iff known now).1 picked i (sound.lt_of_piece found) has
    exact absurd free (settled.not_missing undone found)

theorem Sound.isComplete_eq_false (sound : t.Sound) (begun : i ∈ t.ongoing) :
    t.isComplete = false := by
  rw [Bool.eq_false_iff]
  intro complete
  exact sound.ongoing_disjoint_finished begun
    (sound.mem_finished_of_isComplete complete (sound.lt_of_ongoing begun))

theorem DeliverStep.storage_cases
    (step : DeliverStep t i offset data disk (.error (.storage e)) next) (sound : t.Sound)
    (full : t.file.length = t.content.length) :
    i ∈ t.ongoing ∧ ∃ p file, t.pieces[i]? = some p ∧
      ((∃ action cause, action ≠ .sync ∧ e = .system action t.file.path cause) ∧
          next = t.discard i p file ∨
        (∃ cause, disk.sync = some cause ∧ e = .system .sync t.file.path cause) ∧
          next.isComplete = true ∧ next = { t with
            pieces := t.pieces.set i (p.map fun _ => .released)
            ongoing := t.ongoing.filter (· != i)
            finished := i :: t.finished
            openRequests := dropPiece i t.openRequests
            downloaded := t.downloaded + t.content.sizeAt i
            file := file }) := by
  cases step with
  | @unwritten p k _ file begun found _ _ fits complete _ unwritten =>
    have system := sound.system_of_unwritten full begun found fits complete unwritten
    exact ⟨begun, p, file, found, Or.inl ⟨system, rfl⟩⟩
  | @written p k file _ begun found _ _ fits complete _ written verified =>
    obtain verified | ⟨cause, same, all, failed⟩ := verified
    · cases verified
    · cases same
      obtain ⟨-, put⟩ := OutputFile.writeAt_eq_ok written
      have path : file.path = t.file.path := by rw [put, OutputFile.put]
      refine ⟨begun, p, file, found, Or.inr ⟨path ▸ OutputFile.sync_eq_error_iff.1 failed, all, ?_⟩⟩
      rw [sound.conclude_eq found complete, sound.length_data begun found fits complete]

/-- In every state that a download comes to, a block is answered with an error of the system only if
it completes a piece that was begun. If a write failed, the piece stays begun with none of its
blocks here or asked for, it is not counted, and it is asked for again. If the sync failed, the
piece was the last one, and it is written, counted and done all the same. Nothing else changes. -/
theorem storage_failure {c : Content} (wf : c.WellFormed) {tree : Tree} {path : String}
    {file : OutputFile} (created : OutputFile.create tree path c.length = .ok file)
    (maxPeers requestTimeout : Nat) (calls : List Call) (i offset : Nat) (data : Bytes)
    (disk : DiskOutcome) (e : StorageError) (next : Transfer) :
    let t := (start c maxPeers requestTimeout file).after calls
    t.deliver i offset data disk = (.error (.storage e), next) →
    i ∈ t.ongoing ∧ i ∉ t.finished ∧ t.isComplete = false ∧ ∃ p file, t.pieces[i]? = some p ∧
      ((∃ action cause, action ≠ .sync ∧ e = .system action t.file.path cause) ∧
          next.isComplete = false ∧
          (∀ peer bits now, next.bitfield? peer = some bits → Bitfield.has bits i = true →
            ∃ r, (next.pick peer now).1 = .ok (some r)) ∧
          next = { t with
            pieces := t.pieces.set i (p.map fun _ => .missing)
            openRequests := t.openRequests.filter fun o => o.request.piece != i
            file := file } ∨
        (∃ cause, disk.sync = some cause ∧ e = .system .sync t.file.path cause) ∧
          next.isComplete = true ∧
          c.pieceHash? i = some (sha1 (file.range (i * c.pieceLength) (c.sizeAt i))) ∧
          next = { t with
            pieces := t.pieces.set i (p.map fun _ => .released)
            ongoing := t.ongoing.filter (· != i)
            finished := i :: t.finished
            openRequests := t.openRequests.filter fun o => o.request.piece != i
            downloaded := t.downloaded + c.sizeAt i
            file := file }) := by
  intro t failed
  obtain ⟨earlier, rfl⟩ := OutputFile.exists_ofContent_of_create created
  have first := Sound.start wf maxPeers requestTimeout (.ofContent path c.length earlier)
  have sound : t.Sound := first.after calls
  have content : t.content = c := (first.settings_after calls).1
  have full : t.file.length = t.content.length :=
    (first.after_saved (saved_start maxPeers requestTimeout rfl) calls).1.length
  have step := sound.deliver_step failed
  have unbroken : next.Sound := step.sound sound
  obtain ⟨begun, p, file, found, outcome⟩ := step.storage_cases sound full
  have undone : i ∉ t.finished := sound.ongoing_disjoint_finished begun
  refine ⟨begun, undone, sound.isComplete_eq_false begun, p, file, found, ?_⟩
  rcases outcome with ⟨system, rfl⟩ | ⟨sync, complete, rfl⟩
  · refine Or.inl ⟨system, unbroken.isComplete_eq_false begun, ?_, rfl⟩
    intro peer bits now known has
    have again : (t.discard i p file).pieces[i]? = some p.reset :=
      List.getElem?_set_self (List.getElem?_eq_some_iff.1 found).1
    obtain ⟨b, member⟩ := List.exists_mem_of_length_pos
      (Piece.blocks_pos (unbroken.length_pos again))
    have free : .missing ∈ p.reset.blocks := Piece.eq_missing_of_mem_reset member ▸ member
    exact unbroken.exists_pick_of_missing known has undone again free now
  · have octets := (step.fileStep sound full).new i List.mem_cons_self undone
    refine Or.inr ⟨sync, complete, ?_, ?_⟩
    · rw [← content]
      exact octets
    · rw [← content]
      rfl

theorem storage_failure_sample :
    let file : OutputFile := .ofContent "out" 3 [9, 9, 9, 9]
    let t := (start Sample.content 4 1000 file).after
      [.register Sample.peer [192], .pick Sample.peer 0, .pick Sample.peer 5]
    let disk : DiskOutcome := { DiskOutcome.smooth with flush := some (Tree.failure .storageFull) }
    let u := (t.deliver 0 0 [1, 2] disk).2
    Sample.content.WellFormed ∧
      OutputFile.create ⟨[(["out"], .file [9, 9, 9, 9])], 4096⟩ "out" 3 = .ok file ∧
      (t.deliver 0 0 [1, 2] disk).1 =
        .error (.storage (.system .flush "out" (Tree.failure .storageFull))) ∧
      u.ongoing = t.ongoing ∧ u.downloaded = t.downloaded ∧ u.isComplete = false ∧
      (∃ p, u.pieces[0]? = some p ∧ ∀ b ∈ p.blocks, b = .missing) ∧
      ∃ r, (u.pick Sample.peer 6).1 = .ok (some r) := by
  intro file t disk u
  have created : OutputFile.create ⟨[(["out"], .file [9, 9, 9, 9])], 4096⟩ "out" 3 = .ok file :=
    Sample.created
  have answer : (t.deliver 0 0 [1, 2] disk).1 =
      .error (.storage (.system .flush "out" (Tree.failure .storageFull))) := by decide +kernel
  have known : u.bitfield? Sample.peer = some [192] := by decide +kernel
  obtain ⟨-, -, -, p, written, found, outcome⟩ := storage_failure Sample.wellFormed created 4 1000
    [.register Sample.peer [192], .pick Sample.peer 0, .pick Sample.peer 5] 0 0 [1, 2] disk
    (.system .flush "out" (Tree.failure .storageFull)) u (Prod.ext answer rfl)
  rcases outcome with ⟨-, incomplete, again, same⟩ | ⟨⟨cause, -, sync⟩, -⟩
  · have inside : 0 < t.pieces.length := (List.getElem?_eq_some_iff.1 found).1
    have reset : u.pieces[0]? = some p.reset := by
      rw [same]
      exact List.getElem?_set_self inside
    have begun : u.ongoing = t.ongoing := by rw [same]
    have counted : u.downloaded = t.downloaded := by rw [same]
    exact ⟨Sample.wellFormed, created, answer, begun, counted, incomplete,
      ⟨p.reset, reset, fun _ => Piece.eq_missing_of_mem_reset⟩,
      again Sample.peer [192] 6 known (by decide)⟩
  · cases sync

/-- A failure that is not made good: what was written of the last piece cannot be synced, and the
piece is done and counted, the download complete. -/
theorem counted_despite_failure :
    let t := (start Sample.content 4 1000 (.ofContent "out" 3 [])).after Sample.calls
    let disk : DiskOutcome := { DiskOutcome.smooth with sync := some (Tree.failure .invalidInput) }
    let u := (t.deliver 1 0 [3] disk).2
    (t.deliver 1 0 [3] disk).1 =
        .error (.storage (.system .sync "out" (Tree.failure .invalidInput))) ∧
      t.ongoing = [1] ∧ t.finished = [0] ∧ t.downloaded = 2 ∧
      u.ongoing = [] ∧ u.finished = [1, 0] ∧ u.downloaded = 3 ∧ u.isComplete = true := by
  decide +kernel

end Swarm.Transfer
