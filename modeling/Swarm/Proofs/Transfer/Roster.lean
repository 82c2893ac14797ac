import Mathlib.SetTheory.Cardinal.Finite
import Swarm.Proofs.Transfer.Announcements

/-!
The peers of a download as a set. The table has one entry for each peer that is registered, so the
numbers that calls take from the table are numbers of peers: how many are registered, and how many
of them have a piece.
-/

namespace Swarm.Transfer

def OneEntryEach (t : Transfer) : Prop := (t.peers.map Prod.fst).Nodup

noncomputable def supply (t : Transfer) (i : Nat) : Nat :=
  Nat.card {peer : PeerId // ∃ bits, t.bitfield? peer = some bits ∧ Bitfield.has bits i = true}

variable {t : Transfer} {peer : PeerId}

/-! ### One entry for each peer -/

theorem nodup_putPeer {peers : List (PeerId × Bytes)} (once : (peers.map Prod.fst).Nodup)
    (peer : PeerId) (bits : Bytes) : ((putPeer peer bits peers).map Prod.fst).Nodup := by
  rw [putPeer, List.map_cons]
  refine List.nodup_cons.2 ⟨?_, once.sublist (List.filter_sublist.map _)⟩
  intro listed
  obtain ⟨entry, member, same⟩ := List.mem_map.1 listed
  exact bne_iff_ne.1 (List.mem_filter.1 member).2 same

theorem OneEntryEach.call (once : t.OneEntryEach) (c : Call) : (t.call c).2.OneEntryEach := by
  cases c with
  | register peer bits =>
    show (t.register peer bits).2.OneEntryEach
    unfold register
    split
    next => exact once
    next => exact nodup_putPeer once peer bits
  | unregister peer =>
    show (t.unregister peer).2.OneEntryEach
    unfold unregister
    split
    next => exact once.sublist (List.filter_sublist.map _)
    next => exact once
  | addPiece peer piece =>
    show (t.addPiece peer piece).2.OneEntryEach
    unfold addPiece
    split
    next => exact once
    next =>
      split
      next => exact once
      next => exact nodup_putPeer once peer _
  | pick peer now =>
    show (t.pick peer now).2.OneEntryEach
    rwa [OneEntryEach, peers_pick]
  | deliver i offset data disk =>
    show (t.deliver i offset data disk).2.OneEntryEach
    rwa [OneEntryEach, peers_deliver]

theorem OneEntryEach.after (once : t.OneEntryEach) (calls : List Call) :
    (t.after calls).OneEntryEach :=
  Transfer.after_induction calls (fun c _ _ before => before.call c) once

theorem oneEntryEach_start (c : Content) (maxPeers requestTimeout : Nat)
    (file : Storage.OutputFile) : (start c maxPeers requestTimeout file).OneEntryEach :=
  List.nodup_nil

/-! ### Entries counted as peers -/

namespace OneEntryEach

theorem mem_peers_iff (once : t.OneEntryEach) {bits : Bytes} :
    (peer, bits) ∈ t.peers ↔ t.bitfield? peer = some bits := by
  rw [bitfield?, List.lookup_eq_some_iff]
  constructor
  · intro member
    obtain ⟨before, after, split⟩ := List.append_of_mem member
    refine ⟨before, after, split, ?_⟩
    intro entry earlier
    rw [OneEntryEach, split, List.map_append, List.map_cons] at once
    rw [bne_iff_ne]
    intro same
    exact List.disjoint_of_nodup_append once (List.mem_map_of_mem earlier)
      (same ▸ List.mem_cons_self)
  · intro split
    obtain ⟨before, after, split, -⟩ := split
    rw [split]
    exact List.mem_append_right _ List.mem_cons_self

theorem card_eq (once : t.OneEntryEach) (test : Bytes → Bool) :
    Nat.card {peer : PeerId // ∃ bits, t.bitfield? peer = some bits ∧ test bits = true} =
      (t.peers.filter fun entry => test entry.2).length := by
  have distinct : ((t.peers.filter fun entry => test entry.2).map Prod.fst).Nodup :=
    once.sublist (List.filter_sublist.map _)
  rw [Nat.subtype_card ((t.peers.filter fun entry => test entry.2).map Prod.fst).toFinset,
    List.toFinset_card_of_nodup distinct, List.length_map]
  intro peer
  rw [List.mem_toFinset, List.mem_map]
  constructor
  · intro listed
    obtain ⟨entry, member, rfl⟩ := listed
    obtain ⟨known, passes⟩ := List.mem_filter.1 member
    exact ⟨entry.2, once.mem_peers_iff.1 known, passes⟩
  · intro known
    obtain ⟨bits, entry, passes⟩ := known
    exact ⟨(peer, bits), List.mem_filter.2 ⟨once.mem_peers_iff.2 entry, passes⟩, rfl⟩

theorem holders_eq (once : t.OneEntryEach) (i : Nat) : t.holders i = t.supply i :=
  (once.card_eq fun bits => Bitfield.has bits i).symm

theorem length_peers_eq (once : t.OneEntryEach) :
    t.peers.length = Nat.card {peer : PeerId // t.isRegistered peer = true} := by
  have all := once.card_eq fun _ => true
  rw [List.filter_true] at all
  rw [← all]
  refine Nat.card_congr (Equiv.subtypeEquivRight fun peer => ?_)
  rw [isRegistered, Option.isSome_iff_exists]
  simp only [and_true]

end OneEntryEach

end Swarm.Transfer
