import Swarm.Proofs.Transfer.Accounting
import Swarm.Proofs.Transfer.Peers

/-!
The figures of a download over a whole run. Each call either leaves the count of downloaded octets
as it is or makes one more piece done and adds the octets of that piece (`CallStep.gain_cases`), so
the count is the sum over the pieces that are done, what is left is the sum over the others, and no
piece is counted twice. The table of peers never outgrows its limit.
-/

namespace Swarm.Transfer

open Storage (OutputFile)

def Call.piece? : Call → Option Nat
  | .deliver i _ _ _ => some i
  | _ => none

/-- What a run adds to the count of downloaded octets: for each call that changes the count, the
piece it brings a block of and by how much the count has grown. -/
def gains (t : Transfer) : List Call → List (Option Nat × Nat)
  | [] => []
  | c :: calls =>
    let next := (t.call c).2
    if next.downloaded = t.downloaded then next.gains calls
    else (c.piece?, next.downloaded - t.downloaded) :: next.gains calls

variable {t next : Transfer}

/-! ### The count -/

theorem CallStep.gain_cases {c : Call} (step : CallStep t c next) (sound : t.Sound) :
    (next.downloaded = t.downloaded ∧ next.finished = t.finished) ∨
    ∃ i, c.piece? = some i ∧ i ∈ t.ongoing ∧ next.finished = i :: t.finished ∧
      next.downloaded = t.downloaded + t.content.sizeAt i := by
  cases step with
  | peers => exact Or.inl ⟨rfl, rfl⟩
  | pick step => cases step <;> exact Or.inl ⟨rfl, rfl⟩
  | deliver step =>
    cases step with
    | @written p k file _ begun found _ _ fits complete =>
      refine Or.inr ⟨_, rfl, begun, rfl, ?_⟩
      rw [← sound.length_data begun found fits complete]
      rfl
    | _ => exact Or.inl ⟨rfl, rfl⟩

namespace Sound

/-- What a run adds to the count are the sizes of the pieces that it makes done, in that order. -/
theorem gains_eq (sound : t.Sound) (calls : List Call) :
    ∃ done : List Nat, (t.after calls).finished = done.reverse ++ t.finished ∧
      t.gains calls = done.map fun i => (some i, t.content.sizeAt i) := by
  induction calls generalizing t with
  | nil => exact ⟨[], rfl, rfl⟩
  | cons c calls ih =>
    have step := sound.call_step c
    obtain ⟨done, finished, added⟩ := ih (step.sound sound)
    rw [step.settings.1] at added
    rw [after_cons, finished, gains, added]
    rcases step.gain_cases sound with ⟨same, pool⟩ | ⟨i, brought, begun, pool, more⟩
    · exact ⟨done, by rw [pool], if_pos same⟩
    · have positive := sound.wellFormed.sizeAt_pos (sound.lt_of_ongoing begun)
      refine ⟨i :: done, by simp [pool], ?_⟩
      rw [if_neg (by omega), brought, more, Nat.add_sub_cancel_left, List.map_cons]

theorem downloaded_le_after (sound : t.Sound) (calls : List Call) :
    t.downloaded ≤ (t.after calls).downloaded := by
  refine (sound.after_induction (P := fun u => t.downloaded ≤ u.downloaded) calls ?_
    (Nat.le_refl _)).2
  intro c _ u v sound step before
  rcases step.gain_cases sound with ⟨same, -⟩ | ⟨i, -, -, -, more⟩ <;> omega

theorem downloaded_eq (sound : t.Sound) (counted : t.Counted) : t.downloaded =
    (((List.range t.totalPieces).filter (· ∈ t.finished)).map t.content.sizeAt).sum :=
  counted.trans (sound.finished_perm_filter.map t.content.sizeAt).sum_eq

/-- What is downloaded and the pieces that are not done make up the file. -/
theorem downloaded_add (sound : t.Sound) (counted : t.Counted) : t.downloaded +
    (((List.range t.totalPieces).filter (· ∉ t.finished)).map t.content.sizeAt).sum =
      t.totalBytes := by
  have parts := List.filter_append_perm (· ∈ t.finished) (List.range t.totalPieces)
  have sums := (parts.map t.content.sizeAt).sum_eq
  rw [List.map_append, List.sum_append, ← sound.downloaded_eq counted] at sums
  have whole := sound.wellFormed.sum_sizeAt
  simpa only [decide_not, totalBytes] using sums.trans whole

theorem bytesLeft_eq (sound : t.Sound) (counted : t.Counted) : t.bytesLeft =
    (((List.range t.totalPieces).filter (· ∉ t.finished)).map t.content.sizeAt).sum := by
  rw [bytesLeft, ← sound.downloaded_add counted, Nat.add_sub_cancel_left]

theorem downloaded_le (sound : t.Sound) (counted : t.Counted) : t.downloaded ≤ t.totalBytes :=
  Nat.le.intro (sound.downloaded_add counted)

theorem bytesLeft_eq_zero_iff (sound : t.Sound) (counted : t.Counted) :
    t.bytesLeft = 0 ↔ t.isComplete = true := by
  refine ⟨fun nothing => sound.isComplete_iff.2 fun i known => ?_, sound.bytesLeft_eq_zero counted⟩
  rw [sound.bytesLeft_eq counted, List.sum_eq_zero_iff_forall_eq_nat] at nothing
  refine Decidable.byContradiction fun open_ => ?_
  have counts : t.content.sizeAt i = 0 := nothing _ (List.mem_map_of_mem
    (List.mem_filter.2 ⟨List.mem_range.2 known, decide_eq_true open_⟩))
  exact absurd counts (sound.wellFormed.sizeAt_pos known).ne'

end Sound

/-! ### The table of peers -/

theorem length_putPeer_le {peer : PeerId} (known : t.isRegistered peer = true) (bits : Bytes) :
    (putPeer peer bits t.peers).length ≤ t.peers.length := by
  obtain ⟨entry, member, rfl⟩ := isRegistered_iff.1 known
  exact List.length_filter_lt_length_iff_exists.2 ⟨entry, member, by simp⟩

theorem length_peers_call (c : Call) (room : t.peers.length ≤ t.maxPeers) :
    (t.call c).2.peers.length ≤ t.maxPeers := by
  cases c with
  | register peer bits =>
    show (t.register peer bits).2.peers.length ≤ t.maxPeers
    unfold register
    split
    next => exact room
    next accepted =>
      by_cases known : t.isRegistered peer = true
      · exact (length_putPeer_le known bits).trans room
      · have free : t.peers.length < t.maxPeers := by simpa [known] using accepted
        exact (Nat.succ_le_succ (List.length_filter_le _ _)).trans free
  | unregister peer =>
    show (t.unregister peer).2.peers.length ≤ t.maxPeers
    unfold unregister
    split
    next => exact (List.length_filter_le _ _).trans room
    next => exact room
  | addPiece peer piece =>
    show (t.addPiece peer piece).2.peers.length ≤ t.maxPeers
    unfold addPiece
    split
    next => exact room
    next =>
      split
      next => exact room
      next found =>
        have known : t.isRegistered peer = true := by rw [isRegistered, found]; rfl
        exact (length_putPeer_le known _).trans room
  | pick peer now =>
    show (t.pick peer now).2.peers.length ≤ t.maxPeers
    rwa [peers_pick]
  | deliver i offset data disk =>
    show (t.deliver i offset data disk).2.peers.length ≤ t.maxPeers
    rwa [peers_deliver]

theorem Sound.length_peers_le (sound : t.Sound) (room : t.peers.length ≤ t.maxPeers)
    (calls : List Call) : (t.after calls).peers.length ≤ t.maxPeers := by
  induction calls generalizing t with
  | nil => exact room
  | cons c calls ih =>
    have step := sound.call_step c
    have limit := step.settings.2.1
    rw [after_cons, ← limit]
    exact ih (step.sound sound) (limit.symm ▸ length_peers_call c room)

/-- In every state that a download comes to, as many octets count as downloaded as the pieces have
that are done, and as many are left as the other pieces have. The count never falls. Every call that
adds to it makes a piece done and adds its octets, no piece twice. No more peers are registered than
there is room for. -/
theorem figures_exact {c : Content} (wf : c.WellFormed) (maxPeers requestTimeout : Nat)
    (file : OutputFile) (calls later : List Call) :
    let s := start c maxPeers requestTimeout file
    let t := s.after calls
    t.downloaded = (((List.range c.pieceCount).filter (· ∈ t.finished)).map c.sizeAt).sum ∧
    t.downloaded ≤ t.totalBytes ∧ t.totalBytes < UInt64.size ∧
    t.downloaded ≤ (t.after later).downloaded ∧
    t.bytesLeft = (((List.range c.pieceCount).filter (· ∉ t.finished)).map c.sizeAt).sum ∧
    (t.bytesLeft = 0 ↔ t.isComplete = true) ∧
    (∃ done : List Nat, done.Nodup ∧ (∀ i, i ∈ done ↔ i ∈ t.finished) ∧
      s.gains calls = done.map fun i => (some i, c.sizeAt i)) ∧
    t.peers.length ≤ maxPeers := by
  intro s t
  have sound : t.Sound := sound_after wf maxPeers requestTimeout file calls
  have begun : s.Sound := Sound.start wf maxPeers requestTimeout file
  have counted : t.Counted := begun.after_counted rfl calls
  have content : t.content = c := (begun.settings_after calls).1
  have pieces : t.totalPieces = c.pieceCount := by rw [totalPieces, content]
  have downloaded := sound.downloaded_eq counted
  have left := sound.bytesLeft_eq counted
  rw [pieces, content] at downloaded left
  refine ⟨downloaded, sound.downloaded_le counted, sound.wellFormed.length_lt,
    sound.downloaded_le_after later, left, sound.bytesLeft_eq_zero_iff counted, ?_,
    begun.length_peers_le (Nat.zero_le _) calls⟩
  obtain ⟨done, finished, added⟩ := begun.gains_eq calls
  have same : t.finished = done.reverse := finished.trans (List.append_nil _)
  refine ⟨done, ?_, ?_, added⟩
  · rw [← List.nodup_reverse, ← same]
    exact sound.finished_nodup
  · intro i
    rw [same, List.mem_reverse]

theorem figures_exact_sample :
    let s := start Sample.content 4 1000 (.ofContent "out" 3 [9])
    let t := s.after Sample.calls
    Sample.content.WellFormed ∧ t.finished = [0] ∧ t.downloaded = 2 ∧ t.bytesLeft = 1 ∧
      t.isComplete = false ∧ s.gains Sample.calls = [(some 0, 2)] ∧ t.peers.length ≤ 4 := by
  intro s t
  have finished : t.finished = [0] := by decide +kernel
  obtain ⟨downloaded, -, -, -, left, complete, ⟨done, once, same, added⟩, room⟩ :=
    figures_exact Sample.wellFormed 4 1000 (.ofContent "out" 3 [9]) Sample.calls []
  have one : t.bytesLeft = 1 := by
    rw [show t.bytesLeft = _ from left, finished]
    decide +kernel
  have only : done = [0] := by
    rw [← List.perm_singleton]
    refine (List.perm_ext_iff_of_nodup once (List.nodup_singleton 0)).2 fun i => ?_
    rw [same, finished]
  refine ⟨Sample.wellFormed, finished, ?_, one, ?_, ?_, room⟩
  · rw [show t.downloaded = _ from downloaded, finished]
    decide +kernel
  · refine Bool.eq_false_iff.2 fun whole => ?_
    rw [← show t.bytesLeft = 0 ↔ t.isComplete = true from complete, one] at whole
    cases whole
  · rw [show s.gains Sample.calls = _ from added, only]
    decide +kernel

end Swarm.Transfer
