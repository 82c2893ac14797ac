import Swarm.Proofs.Transfer.Blocks
import Swarm.Proofs.Transfer.Roster

/-!
Calls that are refused. Each is refused for a reason that is named in the answer, exactly when that
reason is there, and then the download is as it was before the call.
-/

namespace Swarm.Transfer

open Storage (DiskOutcome OutputFile)

/-- The answer says that the call was refused. That a block could not be written is no refusal. -/
def Answer.IsRefusal : Answer → Prop
  | registered accepted => accepted = false
  | changed outcome => ∃ e, outcome = .error e
  | picked outcome => ∃ e, outcome = .error e
  | delivered outcome => ∃ e, outcome = .error e ∧ ∀ cause, e ≠ .storage cause

inductive Refusal (c : Content) (maxPeers : Nat) (t : Transfer) : Call → Answer → Prop where
  /-- A new peer is turned away when there are as many others as there may be. -/
  | full {peer : PeerId} {bits : Bytes} (new : t.isRegistered peer = false)
      (others : maxPeers ≤
        Nat.card {other : PeerId // other ≠ peer ∧ t.isRegistered other = true}) :
      Refusal c maxPeers t (.register peer bits) (.registered false)
  | notThere {peer : PeerId} (absent : t.isRegistered peer = false)
      (incomplete : t.isComplete = false) :
      Refusal c maxPeers t (.unregister peer) (.changed (.error (.unknownPeer peer)))
  | outOfRange {peer : PeerId} {piece : Nat} (outside : c.pieceCount ≤ piece) :
      Refusal c maxPeers t (.addPiece peer piece)
        (.changed (.error (.wire (.pieceOutOfRange piece))))
  | unknownOwner {peer : PeerId} {piece : Nat} (inside : piece < c.pieceCount)
      (absent : t.isRegistered peer = false) :
      Refusal c maxPeers t (.addPiece peer piece) (.changed (.error (.unknownPeer peer)))
  | unknownAsker {peer : PeerId} {now : Nat} (absent : t.isRegistered peer = false) :
      Refusal c maxPeers t (.pick peer now) (.picked (.error (.unknownPeer peer)))
  | unsolicited {i offset : Nat} {data : Bytes} {disk : DiskOutcome} (undone : i ∉ t.finished)
      (unbegun : i ∉ t.ongoing) : Refusal c maxPeers t (.deliver i offset data disk)
        (.delivered (.error (.wire (.unsolicitedBlock i))))
  | astray {i offset : Nat} {data : Bytes} {disk : DiskOutcome} (begun : i ∈ t.ongoing)
      (nowhere : ∀ k < blockCount (c.sizeAt i), offset ≠ k * blockSize) :
      Refusal c maxPeers t (.deliver i offset data disk)
        (.delivered (.error (.wire (.unknownBlock i offset))))
  | unfit {i k : Nat} {data : Bytes} {disk : DiskOutcome} (begun : i ∈ t.ongoing)
      (inside : k < blockCount (c.sizeAt i))
      (differs : data.length ≠ min blockSize (c.sizeAt i - k * blockSize)) :
      Refusal c maxPeers t (.deliver i (k * blockSize) data disk)
        (.delivered (.error (.wire (.blockLength i (k * blockSize)
          (min blockSize (c.sizeAt i - k * blockSize)) data.length))))

variable {t : Transfer} {peer : PeerId} {call : Call} {answer : Answer}

/-! ### A full table -/

theorem register_eq_false_iff {bits : Bytes} : (t.register peer bits).1 = false ↔
    t.isRegistered peer = false ∧ t.maxPeers ≤ t.peers.length := by
  unfold register
  split
  next refused => exact iff_of_true rfl ⟨Bool.eq_false_iff.2 refused.1, refused.2⟩
  next accepted =>
    refine iff_of_false nofun ?_
    intro reason
    exact accepted ⟨Bool.eq_false_iff.1 reason.1, reason.2⟩

theorem OneEntryEach.length_peers_of_absent (once : t.OneEntryEach)
    (absent : t.isRegistered peer = false) : t.peers.length =
      Nat.card {other : PeerId // other ≠ peer ∧ t.isRegistered other = true} := by
  rw [once.length_peers_eq]
  refine Nat.card_congr (Equiv.subtypeEquivRight fun other => ⟨fun known => ⟨?_, known⟩, And.right⟩)
  rintro rfl
  exact Bool.false_ne_true (absent.symm.trans known)

/-! ### From the reason to the answer -/

theorem Sound.receive_eq_error_iff (sound : t.Sound) {i offset : Nat} {p : Piece} {data : Bytes}
    {e : WireError} (found : t.pieces[i]? = some p) : p.receive offset data = .error e ↔
      (∀ k < blockCount (t.content.sizeAt i), offset ≠ k * blockSize) ∧
        e = .unknownBlock i offset ∨
      ∃ k < blockCount (t.content.sizeAt i), offset = k * blockSize ∧
        data.length ≠ min blockSize (t.content.sizeAt i - k * blockSize) ∧
        e = .blockLength i offset (min blockSize (t.content.sizeAt i - k * blockSize))
          data.length := by
  have suits := sound.suits i p found
  rw [Piece.receive_eq_error_iff, sound.blockCount_eq found, suits.index]
  simp only [Piece.blockLength, suits.length]
  rfl

theorem Sound.deliver_of_refused (sound : t.Sound) {i offset : Nat} {p : Piece} {data : Bytes}
    {e : WireError} (begun : i ∈ t.ongoing) (found : t.pieces[i]? = some p)
    (refused : p.receive offset data = .error e) (disk : DiskOutcome) :
    t.deliver i offset data disk = (.error (.wire e), t) := by
  simp only [sound.deliver_of_begun begun found, refused]

/-- Where there is a reason, the call is refused and changes nothing. -/
theorem Refusal.call_eq (reason : Refusal t.content t.maxPeers t call answer) (sound : t.Sound)
    (once : t.OneEntryEach) : t.call call = (answer, t) := by
  cases reason with
  | full new others =>
    rw [← once.length_peers_of_absent new] at others
    rw [Transfer.call, register, if_pos ⟨Bool.eq_false_iff.1 new, others⟩]
  | notThere absent incomplete =>
    have neither : ¬ (t.isComplete = true ∨ t.isRegistered _ = true) :=
      not_or.2 ⟨Bool.eq_false_iff.1 incomplete, Bool.eq_false_iff.1 absent⟩
    rw [Transfer.call, unregister, if_neg neither]
  | outOfRange outside => rw [Transfer.call, addPiece, if_pos (show t.totalPieces ≤ _ from outside)]
  | unknownOwner inside absent =>
    have known : ¬ t.totalPieces ≤ _ := Nat.not_le_of_lt inside
    rw [Transfer.call, addPiece, if_neg known, bitfield?_eq_none_iff.2 absent]
  | unknownAsker absent => rw [Transfer.call, pick, bitfield?_eq_none_iff.2 absent]
  | unsolicited undone unbegun => rw [Transfer.call, deliver_of_unsolicited undone unbegun]
  | @astray i offset data _ begun nowhere =>
    obtain ⟨p, found⟩ := sound.exists_piece (sound.lt_of_ongoing begun)
    have refused : p.receive offset data = .error (.unknownBlock i offset) :=
      (sound.receive_eq_error_iff found).2 (Or.inl ⟨nowhere, rfl⟩)
    rw [Transfer.call, sound.deliver_of_refused begun found refused]
  | unfit begun inside differs =>
    obtain ⟨p, found⟩ := sound.exists_piece (sound.lt_of_ongoing begun)
    have refused := (sound.receive_eq_error_iff found).2 (Or.inr ⟨_, inside, rfl, differs, rfl⟩)
    rw [Transfer.call, sound.deliver_of_refused begun found refused]

/-! ### From the answer to the reason -/

theorem Sound.refusal_of_deliver (sound : t.Sound) {i offset : Nat} {data : Bytes}
    {disk : DiskOutcome} {e : TransferError} {next : Transfer}
    (refused : t.deliver i offset data disk = (.error e, next))
    (system : ∀ cause, e ≠ .storage cause) :
    Refusal t.content t.maxPeers t (.deliver i offset data disk) (.delivered (.error e)) := by
  cases sound.deliver_step refused with
  | unsolicited undone unbegun => exact .unsolicited undone unbegun
  | refused begun found unfit =>
    rcases (sound.receive_eq_error_iff found).1 unfit with ⟨nowhere, rfl⟩ |
      ⟨k, inside, rfl, differs, rfl⟩
    · exact .astray begun nowhere
    · exact .unfit begun inside differs
  | unwritten => exact absurd rfl (system _)
  | written _ _ _ _ _ _ _ _ verified =>
    obtain verified | ⟨cause, failed, -⟩ := verified
    · cases verified
    · cases failed
      exact absurd rfl (system cause)

/-- A call that is refused is refused for a reason. -/
theorem Sound.refusal_of_call (sound : t.Sound) (once : t.OneEntryEach)
    (refused : (t.call call).1.IsRefusal) :
    Refusal t.content t.maxPeers t call (t.call call).1 := by
  cases call with
  | register peer bits =>
    have accepted : (t.register peer bits).1 = false := refused
    obtain ⟨new, room⟩ := register_eq_false_iff.1 accepted
    rw [Transfer.call, accepted]
    exact .full new (once.length_peers_of_absent new ▸ room)
  | unregister peer =>
    obtain ⟨e, outcome⟩ := refused
    rw [Transfer.call, outcome]
    obtain ⟨incomplete, absent, rfl⟩ := unregister_eq_error_iff.1 outcome
    exact .notThere absent incomplete
  | addPiece peer piece =>
    obtain ⟨e, outcome⟩ := refused
    rw [Transfer.call, outcome]
    by_cases outside : t.totalPieces ≤ piece
    · rw [addPiece, if_pos outside] at outcome
      cases outcome
      exact .outOfRange outside
    · cases known : t.bitfield? peer with
      | none =>
        rw [addPiece, if_neg outside, known] at outcome
        cases outcome
        exact .unknownOwner (Nat.lt_of_not_le outside) (bitfield?_eq_none_iff.1 known)
      | some bits =>
        rw [addPiece, if_neg outside, known] at outcome
        cases outcome
  | pick peer now =>
    obtain ⟨e, outcome⟩ := refused
    rw [Transfer.call, outcome]
    obtain ⟨absent, rfl⟩ := pick_eq_error_iff.1 outcome
    exact .unknownAsker absent
  | deliver i offset data disk =>
    obtain ⟨e, outcome, system⟩ := refused
    rw [Transfer.call, outcome]
    exact sound.refusal_of_deliver (Prod.ext outcome rfl) system

theorem isRefusal_of_wire (e : WireError) :
    (Answer.delivered (.error (.wire e))).IsRefusal := by
  refine ⟨.wire e, rfl, ?_⟩
  intro cause same
  cases same

theorem Refusal.isRefusal {c : Content} {maxPeers : Nat}
    (reason : Refusal c maxPeers t call answer) : answer.IsRefusal := by
  cases reason with
  | full => rfl
  | notThere => exact ⟨_, rfl⟩
  | outOfRange => exact ⟨_, rfl⟩
  | unknownOwner => exact ⟨_, rfl⟩
  | unknownAsker => exact ⟨_, rfl⟩
  | unsolicited => exact isRefusal_of_wire _
  | astray => exact isRefusal_of_wire _
  | unfit => exact isRefusal_of_wire _

/-- In every state that a download comes to, a call is refused exactly when there is a reason to,
with the answer that names the reason, and a call that is refused changes nothing. No block is
taken in for a piece that is out of range. -/
theorem refused_exactly {c : Content} (wf : c.WellFormed) (maxPeers requestTimeout : Nat)
    (file : OutputFile) (calls : List Call) :
    let t := (start c maxPeers requestTimeout file).after calls
    (∀ call answer,
      (t.call call).1 = answer ∧ answer.IsRefusal ↔ Refusal c maxPeers t call answer) ∧
    (∀ call, (t.call call).1.IsRefusal → (t.call call).2 = t) ∧
    ∀ i, c.pieceCount ≤ i → ∀ offset data disk, t.deliver i offset data disk =
      (.error (.wire (.unsolicitedBlock i)), t) := by
  intro t
  have first := Sound.start wf maxPeers requestTimeout file
  have sound : t.Sound := first.after calls
  have once : t.OneEntryEach := (oneEntryEach_start c maxPeers requestTimeout file).after calls
  obtain ⟨content, limit, -⟩ := first.settings_after calls
  have content : t.content = c := content
  have limit : t.maxPeers = maxPeers := limit
  rw [← content, ← limit]
  refine ⟨?_, ?_, ?_⟩
  · intro call answer
    constructor
    · rintro ⟨rfl, refused⟩
      exact sound.refusal_of_call once refused
    · intro reason
      exact ⟨congrArg Prod.fst (reason.call_eq sound once), reason.isRefusal⟩
  · intro call refused
    exact congrArg Prod.snd ((sound.refusal_of_call once refused).call_eq sound once)
  · intro i outside offset data disk
    have undone : i ∉ t.finished := fun done => Nat.not_lt_of_le outside (sound.lt_of_finished done)
    have unbegun : i ∉ t.ongoing :=
      fun begun => Nat.not_lt_of_le outside (sound.lt_of_ongoing begun)
    exact deliver_of_unsolicited undone unbegun

theorem refused_exactly_sample :
    let other : PeerId := Fixed.fill 20 2
    let t := (start Sample.content 1 1000 (.ofContent "out" 3 [9])).after
      [.register Sample.peer [192], .pick Sample.peer 0]
    Sample.content.WellFormed ∧ t.ongoing = [0] ∧ t.requests = [⟨0, 0, 2⟩] ∧
      t.deliver 0 0 [7] .smooth = (.error (.wire (.blockLength 0 0 2 1)), t) ∧
      t.deliver 2 0 [7] .smooth = (.error (.wire (.unsolicitedBlock 2)), t) ∧
      t.register other [128] = (false, t) ∧
      1 ≤ Nat.card {peer : PeerId // peer ≠ other ∧ t.isRegistered peer = true} := by
  intro other t
  have ongoing : t.ongoing = [0] := by decide +kernel
  have turnedAway : (t.register other [128]).1 = false := by decide +kernel
  obtain ⟨rule, unchanged, outside⟩ := refused_exactly Sample.wellFormed 1 1000
    (.ofContent "out" 3 [9]) [.register Sample.peer [192], .pick Sample.peer 0]
  have short : Refusal Sample.content 1 t (.deliver 0 0 [7] .smooth)
      (.delivered (.error (.wire (.blockLength 0 0 2 1)))) :=
    .unfit (k := 0) (by simp [ongoing]) (by decide) (by decide)
  obtain ⟨answer, refused⟩ := (rule _ _).2 short
  have outcome : (t.deliver 0 0 [7] .smooth).1 = .error (.wire (.blockLength 0 0 2 1)) :=
    Answer.delivered.inj answer
  refine ⟨Sample.wellFormed, ongoing, by decide +kernel,
    Prod.ext outcome (unchanged (.deliver 0 0 [7] .smooth) (answer ▸ refused)),
    outside 2 (by decide) 0 [7] .smooth,
    Prod.ext turnedAway (unchanged (.register other [128]) turnedAway), ?_⟩
  cases (rule (.register other [128]) (.registered false)).1
    ⟨congrArg Answer.registered turnedAway, rfl⟩ with
  | full _ others => exact others

end Swarm.Transfer
