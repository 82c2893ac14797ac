import Mathlib
import Swarm.Proofs.Transfer.Pools

/-!
What the output file holds during a download. Only a piece that is complete is written, with as
many octets as its place in the file has, so a write reaches no other piece. Each piece that is done
has its digest in the file, and stays so. Unless a write fails, a piece that is not done has not
been touched.
-/

namespace Swarm

open Storage (DiskOutcome OutputFile StorageError Tree)

theorem Piece.Filling.length_data {p : Piece} {k : Nat} {data : Bytes} (filling : p.Filling)
    (fits : data.length = p.blockLength k)
    (complete : (p.modify k fun _ => .held data).isComplete = true) :
    (p.modify k fun _ => .held data).data.length = p.length := by
  have same := same_modify p k fun _ => .held data
  refine Eq.trans (Piece.length_data ?_) same.length
  intro j b found
  rw [same.blockLength]
  have arrived : b.isRetrieved = true :=
    List.all_eq_true.1 complete b (List.mem_of_getElem? found)
  rcases blocks_modify_cases found with ⟨rfl, _, _, rfl⟩ | ⟨_, before⟩
  · exact ⟨data, rfl, fits⟩
  · obtain ⟨other, rfl⟩ :=
      Block.exists_held arrived (filling.kept b (List.mem_of_getElem? before))
    exact ⟨other, rfl, filling.fits j other before⟩

namespace Transfer

def onDisk (t : Transfer) (i : Nat) : Bytes :=
  t.file.range (t.content.pieceOffset i) (t.content.sizeAt i)

structure Saved (t : Transfer) : Prop where
  length : t.file.length = t.content.length
  finished : ∀ i ∈ t.finished, t.content.pieceHash? i = some (sha1 (t.onDisk i))

structure FileStep (t next : Transfer) (works : Prop) : Prop where
  length : next.file.length = t.file.length
  kept : ∀ i ∈ t.finished, next.onDisk i = t.onDisk i
  new : ∀ i ∈ next.finished, i ∉ t.finished →
    t.content.pieceHash? i = some (sha1 (next.onDisk i))
  untouched : works → ∀ i, i ∉ next.finished → next.onDisk i = t.onDisk i

variable {t next : Transfer} {works : Prop} {i k : Nat} {p : Piece} {data : Bytes}

theorem FileStep.of_same (content : next.content = t.content) (file : next.file = t.file)
    (finished : next.finished = t.finished) : FileStep t next works := by
  have same : ∀ i, next.onDisk i = t.onDisk i := by
    intro i
    rw [onDisk, onDisk, content, file]
  constructor
  case length => rw [file]
  case kept => exact fun i _ => same i
  case new =>
    intro i done undone
    rw [finished] at done
    exact absurd done undone
  case untouched => exact fun _ i _ => same i

theorem Sound.length_data (sound : t.Sound) (begun : i ∈ t.ongoing)
    (found : t.pieces[i]? = some p) (fits : data.length = p.blockLength k)
    (complete : (p.modify k fun _ => .held data).isComplete = true) :
    (p.modify k fun _ => .held data).data.length = t.content.sizeAt i := by
  have suits := sound.suits i p found
  exact ((suits.filling begun).length_data fits complete).trans suits.length

theorem Sound.holds_piece (sound : t.Sound) (full : t.file.length = t.content.length)
    (begun : i ∈ t.ongoing) (found : t.pieces[i]? = some p) (fits : data.length = p.blockLength k)
    (complete : (p.modify k fun _ => .held data).isComplete = true) :
    t.file.holds (t.content.pieceOffset i) (p.modify k fun _ => .held data).data.length = true := by
  have room := sound.wellFormed.pieceOffset_add_sizeAt_le (sound.lt_of_ongoing begun)
  rw [OutputFile.holds, full, sound.length_data begun found fits complete]
  exact decide_eq_true room

theorem Sound.writeAt_of_writes (sound : t.Sound) (full : t.file.length = t.content.length)
    (begun : i ∈ t.ongoing) (found : t.pieces[i]? = some p) (fits : data.length = p.blockLength k)
    (complete : (p.modify k fun _ => .held data).isComplete = true) {disk : DiskOutcome}
    (works : disk.Writes) :
    t.file.writeAt disk (t.content.pieceOffset i) (p.modify k fun _ => .held data).data =
      (.ok (), t.file.put (t.content.pieceOffset i) (p.modify k fun _ => .held data).data) :=
  OutputFile.writeAt_of_writes works (sound.holds_piece full begun found fits complete)

theorem Sound.system_of_unwritten (sound : t.Sound) (full : t.file.length = t.content.length)
    (begun : i ∈ t.ongoing) (found : t.pieces[i]? = some p) (fits : data.length = p.blockLength k)
    (complete : (p.modify k fun _ => .held data).isComplete = true) {disk : DiskOutcome}
    {e : StorageError} {file : OutputFile}
    (unwritten : t.file.writeAt disk (t.content.pieceOffset i)
      (p.modify k fun _ => .held data).data = (.error e, file)) :
    ∃ action cause, action ≠ .sync ∧ e = .system action t.file.path cause := by
  rcases OutputFile.writeAt_eq_error unwritten with ⟨outside, -⟩ | system
  · exact absurd (sound.holds_piece full begun found fits complete) outside
  · exact system

section Write

variable {disk : DiskOutcome} {outcome : Except StorageError Unit} {file : OutputFile}
  (written : t.file.writeAt disk (t.content.pieceOffset i) data = (outcome, file))
include written

theorem length_of_written : file.length = t.file.length := by
  have same := t.file.length_writeAt disk (t.content.pieceOffset i) data
  rwa [written] at same

/-- A write of one piece reaches no octet of another. -/
theorem range_of_written (size : data.length = t.content.sizeAt i) {j : Nat} (other : j ≠ i) :
    file.range (t.content.pieceOffset j) (t.content.sizeAt j) = t.onDisk j := by
  have apart := Content.pieces_apart (c := t.content) other
  rw [← size] at apart
  have same := t.file.range_writeAt_apart disk apart
  rwa [written] at same

theorem range_of_written_of_finished (sound : t.Sound) (begun : i ∈ t.ongoing)
    (size : data.length = t.content.sizeAt i) {j : Nat} (done : j ∈ t.finished) :
    file.range (t.content.pieceOffset j) (t.content.sizeAt j) = t.onDisk j := by
  refine range_of_written written size ?_
  intro same
  subst same
  exact sound.ongoing_disjoint_finished begun done

end Write

theorem DeliverStep.fileStep {offset : Nat} {disk : DiskOutcome}
    {answer : Except TransferError Delivery} (step : DeliverStep t i offset data disk answer next)
    (sound : t.Sound) (full : t.file.length = t.content.length) :
    FileStep t next disk.Writes := by
  cases step with
  | late => exact .of_same rfl rfl rfl
  | unsolicited => exact .of_same rfl rfl rfl
  | refused => exact .of_same rfl rfl rfl
  | stored => exact .of_same rfl rfl rfl
  | rejected => exact .of_same rfl rfl rfl
  | unwritten begun found _ inside fits complete right written =>
    have size := sound.length_data begun found fits complete
    constructor
    case length => exact length_of_written written
    case kept => exact fun j done => range_of_written_of_finished written sound begun size done
    case new => exact fun j done undone => absurd done undone
    case untouched =>
      intro works
      rw [sound.writeAt_of_writes full begun found fits complete works] at written
      cases written
  | @written p k file _ begun found _ inside fits complete right written =>
    have size := sound.length_data begun found fits complete
    obtain ⟨holds, put⟩ := OutputFile.writeAt_eq_ok written
    constructor
    case length => exact length_of_written written
    case kept => exact fun j done => range_of_written_of_finished written sound begun size done
    case new =>
      intro j done undone
      cases (List.mem_cons.1 done).resolve_right undone
      have octets := OutputFile.range_put_self holds
      rw [size, ← put] at octets
      have digest : sha1 (p.modify k fun _ => .held data).data = p.hash := eq_of_beq right
      calc
        t.content.pieceHash? i = some p.hash := (sound.suits i p found).hash
        _ = some (sha1 (file.range (t.content.pieceOffset i) (t.content.sizeAt i))) := by
          rw [octets, digest]
    case untouched =>
      intro _ j undone
      refine range_of_written written size ?_
      intro same
      subst same
      exact undone List.mem_cons_self

theorem CallStep.fileStep {c : Call} (step : CallStep t c next) (sound : t.Sound)
    (full : t.file.length = t.content.length) : FileStep t next c.Writes := by
  cases step with
  | peers => exact .of_same rfl rfl rfl
  | pick step => cases step <;> exact .of_same rfl rfl rfl
  | deliver step => exact step.fileStep sound full

theorem CallStep.saved {c : Call} (step : CallStep t c next) (sound : t.Sound) (saved : t.Saved) :
    next.Saved := by
  have change := step.fileStep sound saved.length
  have content := step.settings.1
  constructor
  case length => rw [change.length, saved.length, content]
  case finished =>
    intro i done
    rw [content]
    by_cases before : i ∈ t.finished
    · rw [change.kept i before]
      exact saved.finished i before
    · exact change.new i done before

/-! ### Runs -/

/-- Pieces that are done stay as they are on disk, whatever is called. -/
theorem Sound.after_saved (sound : t.Sound) (saved : t.Saved) (calls : List Call) :
    (t.after calls).Saved ∧ ∀ i ∈ t.finished, (t.after calls).onDisk i = t.onDisk i := by
  have kept := sound.after_induction (P := fun u => u.Saved ∧ ∀ i ∈ t.finished,
    i ∈ u.finished ∧ u.onDisk i = t.onDisk i) calls ?_ ⟨saved, fun i done => ⟨done, rfl⟩⟩
  · exact ⟨kept.2.1, fun i done => (kept.2.2 i done).2⟩
  · intro c _ u v unbroken step held
    obtain ⟨before, same⟩ := held
    refine ⟨step.saved unbroken before, ?_⟩
    intro i done
    obtain ⟨still, octets⟩ := same i done
    have change := step.fileStep unbroken before.length
    exact ⟨step.onward.finished i still, (change.kept i still).trans octets⟩

/-- As long as no write fails, a piece that is not done is on disk as it was. -/
theorem Sound.after_untouched (sound : t.Sound) (saved : t.Saved) {calls : List Call}
    (works : ∀ c ∈ calls, c.Writes) (undone : i ∉ (t.after calls).finished) :
    (t.after calls).onDisk i = t.onDisk i := by
  have kept := sound.after_induction (P := fun u => u.Saved ∧ (i ∉ u.finished →
    u.onDisk i = t.onDisk i)) calls ?_ ⟨saved, fun _ => rfl⟩
  · exact kept.2.2 undone
  · intro c member u v unbroken step held
    obtain ⟨before, same⟩ := held
    refine ⟨step.saved unbroken before, ?_⟩
    intro open_
    have change := step.fileStep unbroken before.length
    rw [change.untouched (works c member) i open_]
    exact same (mt (step.onward.finished i) open_)

theorem saved_start {c : Content} (maxPeers requestTimeout : Nat) {file : OutputFile}
    (full : file.length = c.length) : (start c maxPeers requestTimeout file).Saved where
  length := full
  finished := fun _ done => absurd done List.not_mem_nil

theorem Sample.created : OutputFile.create ⟨[(["out"], .file [9, 9, 9, 9])], 4096⟩ "out" 3 =
    .ok (.ofContent "out" 3 [9, 9, 9, 9]) := by cbv

/-- In every state that a download comes to, the file has its full length, each piece that is done
has its digest in the file and keeps its octets, and, as long as no write fails, each piece that is
not done is as it was when the file was created. -/
theorem finished_on_disk {c : Content} (wf : c.WellFormed) {tree : Tree} {path : String}
    {file : OutputFile} (created : OutputFile.create tree path c.length = .ok file)
    (maxPeers requestTimeout : Nat) (calls later : List Call) :
    let t := (start c maxPeers requestTimeout file).after calls
    let place := fun (f : OutputFile) (i : Nat) => f.range (i * c.pieceLength) (c.sizeAt i)
    t.file.content.length = c.length ∧
    (∀ i ∈ t.finished, c.pieceHash? i = some (sha1 (place t.file i)) ∧
      i ∈ (t.after later).finished ∧ place (t.after later).file i = place t.file i) ∧
    ((∀ call ∈ calls, call.Writes) → ∀ i < c.pieceCount, i ∉ t.finished →
      place t.file i = place file i) ∧
    (t.isComplete → ∀ i < c.pieceCount, c.pieceHash? i = some (sha1 (place t.file i))) := by
  intro t place
  obtain ⟨earlier, rfl⟩ := OutputFile.exists_ofContent_of_create created
  have first := Sound.start wf maxPeers requestTimeout (.ofContent path c.length earlier)
  have empty : (start c maxPeers requestTimeout (.ofContent path c.length earlier)).Saved :=
    saved_start maxPeers requestTimeout rfl
  have sound : t.Sound := sound_after wf maxPeers requestTimeout _ calls
  have saved : t.Saved := (first.after_saved empty calls).1
  have content : t.content = c := (first.settings_after calls).1
  have content' : (t.after later).content = c := (sound.settings_after later).1.trans content
  have onDisk_eq : ∀ u : Transfer, u.content = c → ∀ i, u.onDisk i = place u.file i := by
    intro u same i
    rw [onDisk, same]
    rfl
  have digest : ∀ i ∈ t.finished, c.pieceHash? i = some (sha1 (place t.file i)) := by
    intro i done
    rw [← onDisk_eq t content i, ← content]
    exact saved.finished i done
  refine ⟨?_, ?_, ?_, ?_⟩
  · rw [OutputFile.length_content, saved.length, content]
  · intro i done
    refine ⟨digest i done, (sound.after_onward later).finished i done, ?_⟩
    rw [← onDisk_eq t content i, ← onDisk_eq _ content' i]
    exact (sound.after_saved saved later).2 i done
  · intro works i _ undone
    rw [← onDisk_eq t content i]
    exact first.after_untouched empty works undone
  · intro complete i inside
    refine digest i (sound.mem_finished_of_isComplete complete ?_)
    rwa [totalPieces, content]

theorem finished_on_disk_sample :
    let file : OutputFile := .ofContent "out" 3 [9, 9, 9, 9]
    let t := (start Sample.content 4 1000 file).after Sample.calls
    let u := t.after [.deliver 1 0 [3] .smooth]
    Sample.content.WellFormed ∧
      OutputFile.create ⟨[(["out"], .file [9, 9, 9, 9])], 4096⟩ "out" 3 = .ok file ∧
      (∀ call ∈ Sample.calls, call.Writes) ∧ t.file.content = [1, 2, 9] ∧ t.finished = [0] ∧
      t.file.range 2 1 = file.range 2 1 ∧ u.file.range 0 2 = t.file.range 0 2 ∧
      u.isComplete = true ∧ Sample.content.pieceHash? 1 = some (sha1 (u.file.range 2 1)) := by
  intro file t u
  have created : OutputFile.create ⟨[(["out"], .file [9, 9, 9, 9])], 4096⟩ "out" 3 = .ok file :=
    Sample.created
  have works : ∀ call ∈ Sample.calls, call.Writes := by
    simp [Sample.calls, Call.Writes, DiskOutcome.writes_smooth]
  have finished : t.finished = [0] := by decide +kernel
  have complete : u.isComplete = true := by decide +kernel
  obtain ⟨_, kept, untouched, _⟩ := finished_on_disk Sample.wellFormed created 4 1000
    Sample.calls [.deliver 1 0 [3] .smooth]
  obtain ⟨_, _, _, all⟩ := finished_on_disk Sample.wellFormed created 4 1000
    (Sample.calls ++ [.deliver 1 0 [3] .smooth]) []
  rw [after_append] at all
  refine ⟨Sample.wellFormed, created, works, by decide +kernel, finished, ?_, ?_, complete, ?_⟩
  · refine untouched works 1 (by decide) ?_
    change 1 ∉ t.finished
    simp [finished]
  · refine (kept 0 ?_).2.2
    change 0 ∈ t.finished
    simp [finished]
  · exact all complete 1 (by decide)

end Transfer

end Swarm
