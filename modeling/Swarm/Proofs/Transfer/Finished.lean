import Mathlib.Data.List.Perm.Subperm
import Mathlib.Data.List.Range
import Swarm.Proofs.Transfer.Calls

/-!
The pieces that are done, of whatever content. Each is a piece, and none is done twice, so a
download that counts as complete has all of them (`Tallied.mem_of_isComplete`) and stays complete
(`Tallied.isComplete_call`). Nothing is assumed of the content here: its pieces may be empty, and
there may be too many of them for a request to name.
-/

namespace Swarm.Transfer

open Storage (DiskOutcome OutputFile)

structure Tallied (t : Transfer) : Prop where
  pieces : t.pieces.length = t.totalPieces
  known : ∀ i ∈ t.finished, i < t.totalPieces
  once : t.finished.Nodup

structure Steady (t u : Transfer) : Prop where
  content : u.content = t.content
  pieces : u.pieces.length = t.pieces.length
  finished : u.finished = t.finished

structure Gains (t u : Transfer) (i : Nat) : Prop where
  content : u.content = t.content
  pieces : u.pieces.length = t.pieces.length
  finished : u.finished = i :: t.finished
  new : i ∉ t.finished
  known : i < t.pieces.length

variable {t u : Transfer}

theorem Steady.refl (t : Transfer) : Steady t t := ⟨rfl, rfl, rfl⟩

/-! ### What a call does -/

theorem steady_takeBlock? {now i : Nat} {r : BlockRequest}
    (taken : t.takeBlock? now i = some (r, u)) : Steady t u := by
  unfold takeBlock? at taken
  split at taken
  next => cases taken
  next =>
    split at taken
    next => cases taken
    next =>
      cases taken
      exact ⟨rfl, List.length_set, rfl⟩

theorem steady_takeNew (t : Transfer) (bits : Bytes) (now : Nat) :
    Steady t (t.takeNew bits now).2 := by
  unfold takeNew
  split
  next => exact .refl t
  next i _ =>
    dsimp only
    split
    next => exact ⟨rfl, rfl, rfl⟩
    next taken =>
      obtain ⟨content, pieces, finished⟩ := steady_takeBlock? taken
      exact ⟨content, pieces, finished⟩

theorem steady_pick (t : Transfer) (peer : PeerId) (now : Nat) : Steady t (t.pick peer now).2 := by
  unfold pick
  split
  next => exact .refl t
  next =>
    split
    next =>
      split
      next => exact ⟨rfl, List.length_modify _ _ _, rfl⟩
      next => exact .refl t
    next =>
      split
      next taken =>
        obtain ⟨_, _, block⟩ := List.exists_of_findSome?_eq_some taken
        exact steady_takeBlock? block
      next => exact t.steady_takeNew _ now

theorem commit_cases (t : Transfer) (i : Nat) (data : Bytes) (disk : DiskOutcome)
    (new : i ∉ t.finished) (known : i < t.pieces.length) :
    Steady t (t.commit i data disk).2 ∨ Gains t (t.commit i data disk).2 i := by
  unfold commit
  split
  next => exact Or.inl ⟨rfl, List.length_modify _ _ _, rfl⟩
  next =>
    right
    dsimp only
    split
    next => split <;> exact ⟨rfl, List.length_modify _ _ _, rfl, new, known⟩
    next => exact ⟨rfl, List.length_modify _ _ _, rfl, new, known⟩

/-- Only a block of a piece that is not done can make a piece done, and that piece is the one. -/
theorem deliver_cases (t : Transfer) (i offset : Nat) (data : Bytes) (disk : DiskOutcome) :
    Steady t (t.deliver i offset data disk).2 ∨ Gains t (t.deliver i offset data disk).2 i := by
  unfold deliver
  split
  next => exact Or.inl ⟨rfl, rfl, rfl⟩
  next undone =>
    split
    next => exact Or.inl (.refl t)
    next =>
      split
      next => exact Or.inl (.refl t)
      next piece found =>
        have known : i < t.pieces.length := (List.getElem?_eq_some_iff.1 found).1
        have new : i ∉ t.finished := fun done => undone (List.contains_iff_mem.2 done)
        split
        next => exact Or.inl (.refl t)
        next p _ =>
          unfold accept
          dsimp only
          split
          next => exact Or.inl ⟨rfl, List.length_set, rfl⟩
          next =>
            split
            next => exact Or.inl ⟨rfl, (List.length_modify _ _ _).trans List.length_set, rfl⟩
            next =>
              rcases commit_cases { t with
                pieces := t.pieces.set i p
                openRequests := dropBlock i offset t.openRequests } i p.data disk new
                (List.length_set.symm ▸ known) with steady | gains
              · exact Or.inl ⟨steady.content, steady.pieces.trans List.length_set, steady.finished⟩
              · exact Or.inr ⟨gains.content, gains.pieces.trans List.length_set, gains.finished,
                  new, known⟩

theorem call_tally (t : Transfer) (c : Call) :
    Steady t (t.call c).2 ∨ ∃ i, Gains t (t.call c).2 i := by
  rcases t.call_cases c with ⟨peer, now, rfl⟩ | ⟨i, offset, data, disk, rfl⟩ | ⟨-, peers, same⟩
  · exact Or.inl (t.steady_pick peer now)
  · exact (t.deliver_cases i offset data disk).imp_right fun gains => ⟨i, gains⟩
  · rw [same]
    exact Or.inl ⟨rfl, rfl, rfl⟩

theorem content_call (t : Transfer) (c : Call) : (t.call c).2.content = t.content := by
  rcases t.call_tally c with steady | ⟨_, gains⟩
  · exact steady.content
  · exact gains.content

/-! ### What stays so -/

namespace Tallied

theorem mem_of_isComplete (tallied : t.Tallied) (complete : t.isComplete = true) {i : Nat}
    (known : i < t.totalPieces) : i ∈ t.finished := by
  have count : t.finished.length = t.totalPieces := by simpa [isComplete] using complete
  have all : t.finished.Perm (List.range t.totalPieces) := by
    have inside : t.finished ⊆ List.range t.totalPieces :=
      fun j done => List.mem_range.2 (tallied.known j done)
    apply (tallied.once.subperm inside).perm_of_length_le
    rw [List.length_range, count]
  exact all.mem_iff.2 (List.mem_range.2 known)

theorem of_steady (tallied : t.Tallied) (steady : Steady t u) : u.Tallied := by
  obtain ⟨content, pieces, finished⟩ := steady
  have total : u.totalPieces = t.totalPieces := by rw [totalPieces, totalPieces, content]
  constructor
  case pieces => rw [pieces, tallied.pieces, total]
  case known => rw [finished, total]; exact tallied.known
  case once => rw [finished]; exact tallied.once

theorem of_gains {i : Nat} (tallied : t.Tallied) (gains : Gains t u i) : u.Tallied := by
  obtain ⟨content, pieces, finished, new, known⟩ := gains
  have total : u.totalPieces = t.totalPieces := by rw [totalPieces, totalPieces, content]
  constructor
  case pieces => rw [pieces, tallied.pieces, total]
  case known =>
    rw [finished, total]
    intro j done
    rcases List.mem_cons.1 done with rfl | before
    · exact tallied.pieces ▸ known
    · exact tallied.known j before
  case once => rw [finished]; exact List.nodup_cons.2 ⟨new, tallied.once⟩

theorem call (tallied : t.Tallied) (c : Call) : (t.call c).2.Tallied := by
  rcases t.call_tally c with steady | ⟨i, gains⟩
  · exact tallied.of_steady steady
  · exact tallied.of_gains gains

theorem isComplete_call (tallied : t.Tallied) (complete : t.isComplete = true) (c : Call) :
    (t.call c).2.isComplete = true := by
  rcases t.call_tally c with steady | ⟨i, gains⟩
  · rwa [isComplete, totalPieces, steady.content, steady.finished]
  · have known := gains.known
    rw [tallied.pieces] at known
    exact absurd (tallied.mem_of_isComplete complete known) gains.new

end Tallied

theorem tallied_start (c : Content) (maxPeers requestTimeout : Nat) (file : OutputFile) :
    (start c maxPeers requestTimeout file).Tallied where
  pieces := List.length_mapIdx
  known := fun _ done => absurd done List.not_mem_nil
  once := List.nodup_nil

end Swarm.Transfer
