import Swarm.Proofs.Storage.Ranges
import Swarm.Transfer.Deliver

/-!
Runs of a download: any number of calls in any order, with any arguments.

A call comes with what the world outside adds to it. Asking for a block has the time, and a block
that arrives has the way the disk fares. Nothing is assumed of either, so a run also stands for
peers that send what they like.
-/

namespace Swarm.Transfer

open Storage (DiskOutcome OutputFile)

inductive Call where
  | register (peer : PeerId) (bits : Bytes)
  | unregister (peer : PeerId)
  | addPiece (peer : PeerId) (piece : Nat)
  | pick (peer : PeerId) (now : Nat)
  | deliver (piece offset : Nat) (data : Bytes) (disk : DiskOutcome)

inductive Answer where
  | registered (accepted : Bool)
  | changed (outcome : Except TransferError Unit)
  | picked (outcome : Except TransferError (Option BlockRequest))
  | delivered (outcome : Except TransferError Delivery)

def Call.Writes : Call → Prop
  | .deliver _ _ _ disk => disk.Writes
  | _ => True

def call (t : Transfer) : Call → Answer × Transfer
  | .register peer bits => (.registered (t.register peer bits).1, (t.register peer bits).2)
  | .unregister peer => (.changed (t.unregister peer).1, (t.unregister peer).2)
  | .addPiece peer piece => (.changed (t.addPiece peer piece).1, (t.addPiece peer piece).2)
  | .pick peer now => (.picked (t.pick peer now).1, (t.pick peer now).2)
  | .deliver piece offset data disk =>
    (.delivered (t.deliver piece offset data disk).1, (t.deliver piece offset data disk).2)

def after (t : Transfer) (calls : List Call) : Transfer :=
  calls.foldl (fun t c => (t.call c).2) t

structure Event where
  call : Call
  answer : Answer

def log (t : Transfer) : List Call → List Event
  | [] => []
  | c :: calls => ⟨c, (t.call c).1⟩ :: (t.call c).2.log calls

theorem after_cons (t : Transfer) (c : Call) (calls : List Call) :
    t.after (c :: calls) = (t.call c).2.after calls := rfl

theorem after_append (t : Transfer) (first later : List Call) :
    t.after (first ++ later) = (t.after first).after later := List.foldl_append

theorem after_induction {P : Transfer → Prop} {t : Transfer} (calls : List Call)
    (kept : ∀ c ∈ calls, ∀ t, P t → P (t.call c).2) (holds : P t) : P (t.after calls) := by
  induction calls generalizing t with
  | nil => exact holds
  | cons c rest ih =>
    rw [after_cons]
    exact ih (fun d later => kept d (List.mem_cons_of_mem _ later))
      (kept c List.mem_cons_self t holds)

theorem register_frame (t : Transfer) (peer : PeerId) (bits : Bytes) :
    ∃ peers, (t.register peer bits).2 = { t with peers := peers } := by
  unfold register
  split
  · exact ⟨t.peers, rfl⟩
  · exact ⟨_, rfl⟩

theorem after_registers (t : Transfer) (peers : List (PeerId × Bytes)) :
    ∃ registered, t.after (peers.map fun peer => .register peer.1 peer.2) =
      { t with peers := registered } := by
  induction peers generalizing t with
  | nil => exact ⟨t.peers, rfl⟩
  | cons peer rest ih =>
    obtain ⟨peers, same⟩ := t.register_frame peer.1 peer.2
    obtain ⟨registered, later⟩ := ih { t with peers := peers }
    refine ⟨registered, ?_⟩
    rw [List.map_cons, after_cons, call, same]
    exact later

theorem unregister_frame (t : Transfer) (peer : PeerId) :
    ∃ peers, (t.unregister peer).2 = { t with peers := peers } := by
  unfold unregister
  split
  · exact ⟨_, rfl⟩
  · exact ⟨t.peers, rfl⟩

theorem addPiece_frame (t : Transfer) (peer : PeerId) (piece : Nat) :
    ∃ peers, (t.addPiece peer piece).2 = { t with peers := peers } := by
  unfold addPiece
  split
  · exact ⟨t.peers, rfl⟩
  · split
    · exact ⟨t.peers, rfl⟩
    · exact ⟨_, rfl⟩

/-- A call asks for a block, delivers one, or changes nothing but the peers. -/
theorem call_cases (t : Transfer) (c : Call) :
    (∃ peer now, c = .pick peer now) ∨ (∃ i offset data disk, c = .deliver i offset data disk) ∨
      (∀ i offset data disk, c ≠ .deliver i offset data disk) ∧
        ∃ peers, (t.call c).2 = { t with peers := peers } := by
  cases c with
  | pick peer now => exact Or.inl ⟨peer, now, rfl⟩
  | deliver i offset data disk => exact Or.inr (Or.inl ⟨i, offset, data, disk, rfl⟩)
  | register peer bits => exact Or.inr (Or.inr ⟨by simp, t.register_frame peer bits⟩)
  | unregister peer => exact Or.inr (Or.inr ⟨by simp, t.unregister_frame peer⟩)
  | addPiece peer piece => exact Or.inr (Or.inr ⟨by simp, t.addPiece_frame peer piece⟩)

namespace Sample

def content : Content := .ofData "sample" 2 [1, 2, 3]

def peer : PeerId := Fixed.fill 20 1

/-- A peer that has both pieces sends the first one and is asked for the second. -/
def calls : List Call :=
  [.register peer [192], .pick peer 0, .deliver 0 0 [1, 2] .smooth, .pick peer 5]

theorem wellFormed : content.WellFormed := by
  constructor <;> decide +kernel

end Sample

end Swarm.Transfer
