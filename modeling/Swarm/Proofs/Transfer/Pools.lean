import Swarm.Proofs.Transfer.Steps

/-!
The three pools over a whole run, and what they say of the blocks.

A piece only moves on: from those that nothing was asked of to those begun, and from there to those
that are done. A piece whose digest is wrong or that the disk refuses starts over without leaving
its pool.
-/

namespace Swarm.Transfer

open Storage (DiskOutcome OutputFile)

structure Onward (t u : Transfer) : Prop where
  begun : ∀ i, i ∈ t.ongoing ∨ i ∈ t.finished → i ∈ u.ongoing ∨ i ∈ u.finished
  finished : ∀ i ∈ t.finished, i ∈ u.finished

namespace Onward

variable {t u v : Transfer}

theorem of_same (ongoing : u.ongoing = t.ongoing) (finished : u.finished = t.finished) :
    Onward t u := by
  constructor
  · rw [ongoing, finished]
    exact fun _ => id
  · rw [finished]
    exact fun _ => id

theorem refl (t : Transfer) : Onward t t := of_same rfl rfl

theorem trans (first : Onward t u) (second : Onward u v) : Onward t v :=
  ⟨fun i member => second.begun i (first.begun i member),
    fun i member => second.finished i (first.finished i member)⟩

end Onward

variable {t next : Transfer}

theorem PickStep.onward {peer : PeerId} {now : Nat}
    {answer : Except TransferError (Option BlockRequest)} (step : PickStep t peer now answer next) :
    Onward t next := by
  cases step with
  | unknown => exact .refl t
  | nothing => exact .refl t
  | again => exact .of_same rfl rfl
  | ongoing => exact .of_same rfl rfl
  | new => exact ⟨fun _ member => member.imp_left (List.mem_append_left _), fun _ => id⟩

theorem DeliverStep.onward {i offset : Nat} {data : Bytes} {disk : DiskOutcome}
    {answer : Except TransferError Delivery}
    (step : DeliverStep t i offset data disk answer next) : Onward t next := by
  cases step with
  | late => exact .refl t
  | unsolicited => exact .refl t
  | refused => exact .refl t
  | stored => exact .of_same rfl rfl
  | rejected => exact .of_same rfl rfl
  | unwritten => exact .of_same rfl rfl
  | written =>
    constructor
    · intro j member
      by_cases here : j = i
      · subst here
        exact Or.inr List.mem_cons_self
      · exact member.imp (fun old => List.mem_filter.2 ⟨old, by simpa using here⟩)
          (List.mem_cons_of_mem _)
    · exact fun _ => List.mem_cons_of_mem _

theorem CallStep.onward {c : Call} (step : CallStep t c next) : Onward t next := by
  cases step with
  | peers => exact .of_same rfl rfl
  | pick step => exact step.onward
  | deliver step => exact step.onward

theorem Sound.after_onward (sound : t.Sound) (calls : List Call) : Onward t (t.after calls) := by
  apply (sound.after_induction (P := Onward t) calls _ (.refl t)).2
  intro c _ u v _ step before
  exact before.trans step.onward

/-- In every state that a download comes to, each piece is in exactly one pool and its blocks look
as the pool says; afterwards no piece moves back. -/
theorem pools_and_blocks {c : Content} (wf : c.WellFormed) (maxPeers requestTimeout : Nat)
    (file : OutputFile) (calls later : List Call) :
    let t := (start c maxPeers requestTimeout file).after calls
    (t.missing.Disjoint t.ongoing ∧ t.missing.Disjoint t.finished ∧
      t.ongoing.Disjoint t.finished) ∧
    (t.missing.Nodup ∧ t.ongoing.Nodup ∧ t.finished.Nodup) ∧
    (∀ i, i ∈ t.missing ∨ i ∈ t.ongoing ∨ i ∈ t.finished ↔ i < c.pieceCount) ∧
    (∀ i ∈ t.missing, ∃ p, t.pieces[i]? = some p ∧
      ∀ b ∈ p.blocks, b = .missing ∧ b.data? = none) ∧
    (∀ i ∈ t.ongoing, ∃ p, t.pieces[i]? = some p ∧
      (∀ k b, p.blocks[k]? = some b → (b.data?.isSome ↔ b.isRetrieved) ∧
        ∀ data, b.data? = some data → data.length = p.blockLength k) ∧
      ∃ b ∈ p.blocks, ¬ b.isRetrieved) ∧
    (∀ i ∈ t.finished, ∃ p, t.pieces[i]? = some p ∧
      ∀ b ∈ p.blocks, b.isRetrieved ∧ b.data? = none) ∧
    (∀ i, i ∈ t.ongoing ∨ i ∈ t.finished →
      i ∈ (t.after later).ongoing ∨ i ∈ (t.after later).finished) ∧
    ∀ i ∈ t.finished, i ∈ (t.after later).finished := by
  intro t
  have sound : t.Sound := sound_after wf maxPeers requestTimeout file calls
  have onward := sound.after_onward later
  have content : t.content = c :=
    ((Sound.start wf maxPeers requestTimeout file).settings_after calls).1
  refine ⟨⟨sound.missing_disjoint_ongoing, sound.missing_disjoint_finished,
    sound.ongoing_disjoint_finished⟩,
    ⟨sound.missing_nodup, sound.ongoing_nodup, sound.finished_nodup⟩, ?_, ?_, ?_, ?_,
    onward.begun, onward.finished⟩
  · intro i
    rw [sound.mem_pools, totalPieces, content]
  · intro i waiting
    obtain ⟨p, found, fresh⟩ := sound.exists_fresh waiting
    refine ⟨p, found, ?_⟩
    intro b member
    rw [fresh b member]
    exact ⟨rfl, rfl⟩
  · intro i begun
    obtain ⟨p, found, filling⟩ := sound.exists_filling begun
    obtain ⟨b, member, open_⟩ := filling.unfinished
    refine ⟨p, found, ?_, b, member, by simp [open_]⟩
    intro k b place
    exact ⟨filling.data?_isSome_iff place, fun data => filling.length_of_data? place⟩
  · intro i done
    obtain ⟨p, found, released⟩ := sound.exists_done done
    refine ⟨p, found, ?_⟩
    intro b member
    rw [released b member]
    exact ⟨rfl, rfl⟩

theorem pools_and_blocks_sample :
    let t := (start Sample.content 4 1000 (.ofContent "out" 3 [9])).after Sample.calls
    Sample.content.WellFormed ∧ t.missing = [] ∧ t.ongoing = [1] ∧ t.finished = [0] ∧
      (∃ p, t.pieces[1]? = some p ∧ ∃ b ∈ p.blocks, ¬ b.isRetrieved) ∧
      0 ∈ (t.after [.deliver 1 0 [3] .smooth]).finished := by
  intro t
  have missing : t.missing = [] := by decide +kernel
  have ongoing : t.ongoing = [1] := by decide +kernel
  have finished : t.finished = [0] := by decide +kernel
  obtain ⟨_, _, _, _, begun, _, _, done⟩ := pools_and_blocks Sample.wellFormed 4 1000
    (.ofContent "out" 3 [9]) Sample.calls [.deliver 1 0 [3] .smooth]
  obtain ⟨p, found, _, unfinished⟩ := begun 1 (by rw [ongoing]; exact List.mem_singleton_self 1)
  refine ⟨Sample.wellFormed, missing, ongoing, finished, ⟨p, found, unfinished⟩, ?_⟩
  exact done 0 (by rw [finished]; exact List.mem_singleton_self 0)

end Swarm.Transfer
