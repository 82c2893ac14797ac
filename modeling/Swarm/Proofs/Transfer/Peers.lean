import Swarm.Transfer.Deliver

/-!
The table of registered peers, and what each call does to it. It has one entry for each peer, no
matter how often or for whom the peer was registered: a second registration takes the place of the
first, and ending one ends both.
-/

namespace Swarm.Transfer

open Storage (DiskOutcome)

variable {t u : Transfer} {peer other : PeerId}

theorem isRegistered_iff : t.isRegistered peer = true ↔ ∃ entry ∈ t.peers, entry.1 = peer := by
  simp only [isRegistered, bitfield?, List.lookup_isSome_iff, beq_iff_eq, eq_comm (a := peer)]

theorem isRegistered_of_peers_eq (same : u.peers = t.peers) (peer : PeerId) :
    u.isRegistered peer = t.isRegistered peer := by
  rw [isRegistered, isRegistered, bitfield?, bitfield?, same]

theorem isRegistered_putPeer (bits : Bytes) (peers : u.peers = putPeer other bits t.peers) :
    u.isRegistered peer = true ↔ peer = other ∨ t.isRegistered peer = true := by
  rw [isRegistered_iff, isRegistered_iff, peers, putPeer]
  constructor
  · intro listed
    obtain ⟨entry, member, rfl⟩ := listed
    rcases List.mem_cons.1 member with rfl | old
    · exact Or.inl rfl
    · exact Or.inr ⟨entry, (List.mem_filter.1 old).1, rfl⟩
  · intro either
    by_cases same : peer = other
    · exact ⟨_, List.mem_cons_self, same.symm⟩
    · obtain ⟨entry, member, rfl⟩ := either.resolve_left same
      exact ⟨entry, List.mem_cons_of_mem _ (List.mem_filter.2 ⟨member, bne_iff_ne.2 same⟩), rfl⟩

theorem isRegistered_dropPeer (peers : u.peers = t.peers.filter (·.1 != other)) :
    u.isRegistered peer = true ↔ peer ≠ other ∧ t.isRegistered peer = true := by
  rw [isRegistered_iff, isRegistered_iff, peers]
  constructor
  · intro listed
    obtain ⟨entry, member, rfl⟩ := listed
    obtain ⟨old, kept⟩ := List.mem_filter.1 member
    exact ⟨bne_iff_ne.1 kept, entry, old, rfl⟩
  · intro both
    obtain ⟨apart, entry, member, rfl⟩ := both
    exact ⟨entry, List.mem_filter.2 ⟨member, bne_iff_ne.2 apart⟩, rfl⟩

/-! ### Calls for peers that are not registered -/

theorem bitfield?_eq_none_iff : t.bitfield? peer = none ↔ t.isRegistered peer = false := by
  rw [isRegistered, Option.isSome_eq_false_iff, Option.isNone_iff_eq_none]

theorem pick_eq_error_iff {now : Nat} {e : TransferError} :
    (t.pick peer now).1 = .error e ↔ t.isRegistered peer = false ∧ e = .unknownPeer peer := by
  rw [← bitfield?_eq_none_iff]
  unfold pick
  cases known : t.bitfield? peer with
  | none => simp only [Except.error.injEq, true_and, eq_comm]
  | some bits =>
    refine iff_of_false ?_ (fun both => Option.some_ne_none bits both.1)
    dsimp only
    split
    · split <;> exact nofun
    · split <;> exact nofun

theorem addPiece_eq_unknownPeer_iff {piece : Nat} {other : PeerId} :
    (t.addPiece peer piece).1 = .error (.unknownPeer other) ↔
      piece < t.totalPieces ∧ t.isRegistered peer = false ∧ other = peer := by
  rw [← bitfield?_eq_none_iff]
  unfold addPiece
  split
  next outside => exact iff_of_false nofun (fun all => Nat.not_le_of_lt all.1 outside)
  next inside =>
    cases known : t.bitfield? peer with
    | none =>
      simp only [Except.error.injEq, TransferError.unknownPeer.injEq, true_and, eq_comm,
        Nat.lt_of_not_le inside]
    | some bits => exact iff_of_false nofun (fun all => Option.some_ne_none bits all.2.1)

theorem unregister_eq_error_iff {e : TransferError} : (t.unregister peer).1 = .error e ↔
    t.isComplete = false ∧ t.isRegistered peer = false ∧ e = .unknownPeer peer := by
  unfold unregister
  split
  next either =>
    refine iff_of_false nofun ?_
    rintro ⟨incomplete, absent, -⟩
    rw [incomplete, absent] at either
    simp at either
  next neither =>
    rw [not_or, Bool.not_eq_true, Bool.not_eq_true] at neither
    simp only [Except.error.injEq, neither.1, neither.2, true_and, eq_comm]

/-! ### What calls do to the table -/

theorem eq_of_register_refused {bits : Bytes} (refused : t.register peer bits = (false, u)) :
    u = t := by
  unfold register at refused
  split at refused
  next => exact (congrArg Prod.snd refused).symm
  next => cases refused

theorem isRegistered_register_self {bits : Bytes} (accepted : t.register peer bits = (true, u)) :
    u.isRegistered peer = true := by
  unfold register at accepted
  split at accepted
  next => cases accepted
  next =>
    cases accepted
    exact (isRegistered_putPeer bits rfl).2 (Or.inl rfl)

theorem isRegistered_register (known : t.isRegistered peer = true) (other : PeerId) (bits : Bytes) :
    (t.register other bits).2.isRegistered peer = true := by
  unfold register
  split
  next => exact known
  next => exact (isRegistered_putPeer bits rfl).2 (Or.inr known)

theorem isRegistered_addPiece (known : t.isRegistered peer = true) (other : PeerId) (piece : Nat) :
    (t.addPiece other piece).2.isRegistered peer = true := by
  unfold addPiece
  split
  · exact known
  · split
    · exact known
    · exact (isRegistered_putPeer _ rfl).2 (Or.inr known)

theorem isRegistered_unregister (known : t.isRegistered peer = true) (apart : peer ≠ other) :
    (t.unregister other).2.isRegistered peer = true := by
  unfold unregister
  split
  next => exact (isRegistered_dropPeer rfl).2 ⟨apart, known⟩
  next => exact known

theorem not_isRegistered_unregister (t : Transfer) (peer : PeerId) :
    ¬ (t.unregister peer).2.isRegistered peer = true := by
  unfold unregister
  split
  next => exact fun known => ((isRegistered_dropPeer rfl).1 known).1 rfl
  next neither => exact fun known => neither (Or.inr known)

theorem peers_takeBlock? {now i : Nat} {r : BlockRequest}
    (taken : t.takeBlock? now i = some (r, u)) : u.peers = t.peers := by
  unfold takeBlock? at taken
  split at taken
  next => cases taken
  next =>
    split at taken
    next => cases taken
    next => cases taken; rfl

theorem peers_takeNew (t : Transfer) (bits : Bytes) (now : Nat) :
    (t.takeNew bits now).2.peers = t.peers := by
  unfold takeNew
  split
  next => rfl
  next i _ =>
    dsimp only
    split
    next => rfl
    next taken =>
      have same := peers_takeBlock? taken
      exact same

theorem peers_pick (t : Transfer) (peer : PeerId) (now : Nat) :
    (t.pick peer now).2.peers = t.peers := by
  unfold pick
  split
  next => rfl
  next =>
    split
    next => split <;> rfl
    next =>
      split
      next taken =>
        obtain ⟨_, _, block⟩ := List.exists_of_findSome?_eq_some taken
        exact peers_takeBlock? block
      next => exact t.peers_takeNew _ now

theorem peers_commit (t : Transfer) (i : Nat) (data : Bytes) (disk : DiskOutcome) :
    (t.commit i data disk).2.peers = t.peers := by
  unfold commit
  split
  next => rfl
  next =>
    dsimp only
    split
    next => split <;> rfl
    next => rfl

theorem peers_deliver (t : Transfer) (i offset : Nat) (data : Bytes) (disk : DiskOutcome) :
    (t.deliver i offset data disk).2.peers = t.peers := by
  unfold deliver
  split
  next => rfl
  next =>
    split
    next => rfl
    next =>
      split
      next => rfl
      next =>
        split
        next => rfl
        next =>
          unfold accept
          dsimp only
          split
          next => rfl
          next =>
            split
            next => rfl
            next => rw [peers_commit]

end Swarm.Transfer
