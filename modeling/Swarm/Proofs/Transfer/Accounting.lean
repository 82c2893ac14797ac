import Swarm.Proofs.Torrent.Octets
import Swarm.Proofs.Transfer.Disk

/-!
What is counted as downloaded: the octets of the pieces that are done. A piece is counted when it is
done, with as many octets as it has, so a complete download has counted all octets of the file.
-/

namespace Swarm.Transfer

open Storage (DiskOutcome)

/-- What is counted as downloaded are the octets of the pieces that are done. -/
def Counted (t : Transfer) : Prop := t.downloaded = (t.finished.map t.content.sizeAt).sum

variable {t next : Transfer}

theorem Counted.of_same (counted : t.Counted) (content : next.content = t.content)
    (finished : next.finished = t.finished) (downloaded : next.downloaded = t.downloaded) :
    next.Counted := by
  rw [Counted, content, finished, downloaded]
  exact counted

theorem DeliverStep.counted {i offset : Nat} {data : Bytes} {disk : DiskOutcome}
    {answer : Except TransferError Delivery}
    (step : DeliverStep t i offset data disk answer next) (sound : t.Sound) (counted : t.Counted) :
    next.Counted := by
  cases step with
  | late => exact counted
  | unsolicited => exact counted
  | refused => exact counted
  | stored => exact counted.of_same rfl rfl rfl
  | rejected => exact counted.of_same rfl rfl rfl
  | unwritten => exact counted.of_same rfl rfl rfl
  | @written p k file _ begun found _ _ fits complete =>
    calc
      t.downloaded + (p.modify k fun _ => .held data).data.length
      _ = (t.finished.map t.content.sizeAt).sum + t.content.sizeAt i := by
        rw [sound.length_data begun found fits complete, counted]
      _ = ((i :: t.finished).map t.content.sizeAt).sum := by
        rw [List.map_cons, List.sum_cons, Nat.add_comm]

theorem CallStep.counted {c : Call} (step : CallStep t c next) (sound : t.Sound)
    (counted : t.Counted) : next.Counted := by
  cases step with
  | peers => exact counted.of_same rfl rfl rfl
  | pick step => cases step <;> exact counted.of_same rfl rfl rfl
  | deliver step => exact step.counted sound counted

theorem counted_start (c : Content) (maxPeers requestTimeout : Nat) (file : Storage.OutputFile) :
    (start c maxPeers requestTimeout file).Counted := rfl

namespace Sound

theorem after_counted (sound : t.Sound) (counted : t.Counted) (calls : List Call) :
    (t.after calls).Counted :=
  (sound.after_induction (P := Counted) calls
    (fun _ _ _ _ unbroken step => step.counted unbroken) counted).2

theorem finished_perm_filter (sound : t.Sound) :
    t.finished.Perm ((List.range t.totalPieces).filter (· ∈ t.finished)) := by
  refine (List.perm_ext_iff_of_nodup sound.finished_nodup (List.nodup_range.filter _)).2 ?_
  intro i
  rw [List.mem_filter, List.mem_range, decide_eq_true_eq]
  exact ⟨fun done => ⟨sound.lt_of_finished done, done⟩, And.right⟩

theorem finished_perm (sound : t.Sound) (all : ∀ i < t.totalPieces, i ∈ t.finished) :
    t.finished.Perm (List.range t.totalPieces) := by
  have every : (List.range t.totalPieces).filter (· ∈ t.finished) = List.range t.totalPieces :=
    List.filter_eq_self.2 fun i known => decide_eq_true (all i (List.mem_range.1 known))
  exact every ▸ sound.finished_perm_filter

theorem isComplete_iff (sound : t.Sound) :
    t.isComplete = true ↔ ∀ i < t.totalPieces, i ∈ t.finished := by
  constructor
  · intro complete i
    exact sound.mem_finished_of_isComplete complete
  · intro all
    rw [isComplete, (sound.finished_perm all).length_eq, List.length_range]
    exact beq_self_eq_true _

theorem bytesLeft_eq_zero (sound : t.Sound) (counted : t.Counted) (complete : t.isComplete = true) :
    t.bytesLeft = 0 := by
  have done := sound.finished_perm (sound.isComplete_iff.1 complete)
  have total : t.downloaded = t.totalBytes := by
    rw [show t.downloaded = _ from counted, (done.map t.content.sizeAt).sum_eq]
    exact sound.wellFormed.sum_sizeAt
  rw [bytesLeft, total, Nat.sub_self]

end Sound

end Swarm.Transfer
