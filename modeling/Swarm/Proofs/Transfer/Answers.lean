import Swarm.Proofs.Transfer.Disk
import Swarm.Proofs.Transfer.Handouts

/-!
Answers to requests. A piece that something was asked of stays begun or done, and its blocks lie
where they lay. So a block that was asked for at some time is taken in at any later time, however
late it comes and whatever else was delivered before it.
-/

namespace Swarm.Transfer

open Storage (DiskOutcome OutputFile Tree)

variable {t : Transfer} {r : BlockRequest} {i k : Nat} {p : Piece} {data : Bytes}
  {disk : DiskOutcome}

namespace Sound

theorem receive_of_hasBlock (sound : t.Sound) (block : t.content.HasBlock r)
    (found : t.pieces[r.piece]? = some p) (size : data.length = r.length) :
    ∃ q, p.receive r.offset data = .ok q := by
  obtain ⟨-, k, inside, request⟩ := block
  rw [← sound.blockCount_eq found] at inside
  have same := sound.requestFor_eq found inside
  rw [sound.requestFor_eq_request found inside, ← request] at same
  refine ⟨_, Piece.receive_eq_ok_iff.2 ⟨k, congrArg BlockRequest.offset same, inside, ?_, rfl⟩⟩
  rw [size, congrArg BlockRequest.length same]

/-- Of a piece that was begun or is done, no block that fits its place is refused. -/
theorem deliver_ne_wire (sound : t.Sound) (block : t.content.HasBlock r)
    (begun : r.piece ∈ t.ongoing ∨ r.piece ∈ t.finished) (size : data.length = r.length)
    (disk : DiskOutcome) (e : WireError) :
    (t.deliver r.piece r.offset data disk).1 ≠ .error (.wire e) := by
  cases delivered : t.deliver r.piece r.offset data disk with
  | mk answer next =>
    rintro ⟨⟩
    cases sound.deliver_step delivered with
    | unsolicited undone unbegun => exact begun.elim unbegun undone
    | refused _ found unfit =>
      obtain ⟨q, taken⟩ := sound.receive_of_hasBlock block found size
      rw [unfit] at taken
      cases taken
    | written _ _ _ _ _ _ _ _ verified =>
      obtain wrong | ⟨_, wrong, -⟩ := verified <;> cases wrong

theorem exists_deliver_eq_ok (sound : t.Sound) (full : t.file.length = t.content.length)
    {offset : Nat} (works : disk.Writes) (synced : disk.sync = none)
    (welcome : ∀ e, (t.deliver i offset data disk).1 ≠ .error (.wire e)) :
    ∃ outcome, (t.deliver i offset data disk).1 = .ok outcome := by
  cases delivered : t.deliver i offset data disk with
  | mk answer next =>
    rw [delivered] at welcome
    cases sound.deliver_step delivered with
    | late => exact ⟨_, rfl⟩
    | unsolicited => exact absurd rfl (welcome _)
    | refused => exact absurd rfl (welcome _)
    | stored => exact ⟨_, rfl⟩
    | rejected => exact ⟨_, rfl⟩
    | unwritten begun found _ _ fits complete _ written =>
      rw [sound.writeAt_of_writes full begun found fits complete works] at written
      cases written
    | written _ _ _ _ _ _ _ _ verified =>
      obtain verified | ⟨e, -, -, failed⟩ := verified
      · exact ⟨_, verified⟩
      · rw [OutputFile.sync, synced] at failed
        cases failed

end Sound

/-- In every run, a block that was asked for is not refused at any later time, and unless the system
fails it is stored, completes its piece, or is found to be late. -/
theorem answers_accepted {c : Content} (wf : c.WellFormed) {tree : Tree} {path : String}
    {file : OutputFile} (created : OutputFile.create tree path c.length = .ok file)
    (maxPeers requestTimeout : Nat) (before between : List Call) (peer : PeerId) (now : Nat)
    (r : BlockRequest) :
    let t := (start c maxPeers requestTimeout file).after before
    let u := (t.pick peer now).2.after between
    (t.pick peer now).1 = .ok (some r) → ∀ data disk, data.length = r.length →
      (∀ e, (u.deliver r.piece r.offset data disk).1 ≠ .error (.wire e)) ∧
      (disk.Writes → disk.sync = none →
        ∃ outcome, (u.deliver r.piece r.offset data disk).1 = .ok outcome) := by
  intro t u picked data disk size
  obtain ⟨earlier, rfl⟩ := OutputFile.exists_ofContent_of_create created
  have first := Sound.start wf maxPeers requestTimeout (.ofContent path c.length earlier)
  have sound : t.Sound := first.after before
  have handed : HandedOut t peer now r (t.pick peer now).2 := sound.handedOut (Prod.ext picked rfl)
  have unbroken : (t.pick peer now).2.Sound := (sound.pick_step rfl).sound sound
  have last : u.Sound := unbroken.after between
  have same : u = (start c maxPeers requestTimeout (.ofContent path c.length earlier)).after
      (before ++ .pick peer now :: between) := by
    rw [after_append]
    rfl
  have saved : u.Saved := same ▸
    (first.after_saved (saved_start maxPeers requestTimeout rfl) _).1
  have content : u.content = t.content := (sound.settings_after (.pick peer now :: between)).1
  have begun := (unbroken.after_onward between).begun r.piece (Or.inl handed.begun)
  have welcome := last.deliver_ne_wire (content ▸ handed.block) begun size disk
  exact ⟨welcome, fun works synced => last.exists_deliver_eq_ok saved.length works synced welcome⟩

theorem answers_accepted_sample :
    let file : OutputFile := .ofContent "out" 3 [9, 9, 9, 9]
    let t := (start Sample.content 4 1000 file).after [.register Sample.peer [192]]
    let u := (t.pick Sample.peer 0).2.after [.deliver 0 0 [7, 7] .smooth]
    Sample.content.WellFormed ∧
      OutputFile.create ⟨[(["out"], .file [9, 9, 9, 9])], 4096⟩ "out" 3 = .ok file ∧
      (t.pick Sample.peer 0).1 = .ok (some ⟨0, 0, 2⟩) ∧ u.openRequests = [] ∧
      ∃ outcome, (u.deliver 0 0 [1, 2] .smooth).1 = .ok outcome := by
  intro file t u
  have created : OutputFile.create ⟨[(["out"], .file [9, 9, 9, 9])], 4096⟩ "out" 3 = .ok file :=
    Sample.created
  have picked : (t.pick Sample.peer 0).1 = .ok (some ⟨0, 0, 2⟩) := by decide +kernel
  have dropped : u.openRequests = [] := by decide +kernel
  have accepted := answers_accepted Sample.wellFormed created 4 1000 [.register Sample.peer [192]]
    [.deliver 0 0 [7, 7] .smooth] Sample.peer 0 ⟨0, 0, 2⟩ picked [1, 2] .smooth rfl
  exact ⟨Sample.wellFormed, created, picked, dropped,
    accepted.2 DiskOutcome.writes_smooth rfl⟩

end Swarm.Transfer
