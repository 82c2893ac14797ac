import Mathlib.Data.List.Basic
import Swarm.Proofs.Transfer.Calls
import Swarm.Proofs.Transfer.Peers

/-!
The set of pieces that a download knows a peer to have. It is what the peer was registered with and
the pieces added for it since; calls that others make for other peers leave it as it is.
-/

namespace Swarm

namespace Bitfield

theorem testBit_or_mark (octet : UInt8) {k m : Nat} (small : k < 8) :
    (octet ||| UInt8.ofNat (1 <<< k)).toNat.testBit m =
      (octet.toNat.testBit m || decide (k = m)) := by
  have bound : 2 ^ k < UInt8.size := Nat.pow_lt_pow_right (by decide) small
  rw [UInt8.toNat_or, UInt8.toNat_ofNat', Nat.one_shiftLeft, Nat.mod_eq_of_lt bound,
    Nat.testBit_or, Nat.testBit_two_pow]

theorem has_eq (bits : Bytes) (i : Nat) :
    has bits i = (bits[i / 8]?.getD 0).toNat.testBit (7 - i % 8) := by
  unfold has
  cases bits[i / 8]? with
  | none => simp
  | some octet => rfl

theorem lt_of_has {bits : Bytes} {i : Nat} (held : has bits i = true) : i < 8 * bits.length := by
  unfold has at held
  split at held
  next => cases held
  next octet found =>
    have inside := (List.getElem?_eq_some_iff.1 found).1
    omega

theorem getElem?_insert (bits : Bytes) (i j : Nat) : (insert bits i)[j]?.getD 0 =
    if i / 8 = j then bits[j]?.getD 0 ||| UInt8.ofNat (1 <<< (7 - i % 8)) else bits[j]?.getD 0 := by
  have grown :
      (bits ++ List.replicate (i / 8 + 1 - bits.length) 0)[j]?.getD 0 = bits[j]?.getD 0 := by
    rw [List.getElem?_append]
    split
    next => rfl
    next outside =>
      rw [List.getElem?_eq_none (Nat.le_of_not_lt outside), List.getElem?_replicate]
      split <;> rfl
  rw [insert, List.getElem?_modify]
  split
  next here =>
    rw [← grown]
    have inside : j < (bits ++ List.replicate (i / 8 + 1 - bits.length) 0).length := by
      rw [List.length_append, List.length_replicate]
      omega
    rw [List.getElem?_eq_getElem inside]
    rfl
  next =>
    rw [← grown]
    exact congrArg (Option.getD · 0) Option.map_id'

theorem has_insert (bits : Bytes) (i j : Nat) :
    has (insert bits i) j = true ↔ j = i ∨ has bits j = true := by
  rw [has_eq, has_eq, getElem?_insert]
  split
  next same =>
    rw [testBit_or_mark _ (by omega), Bool.or_eq_true, decide_eq_true_eq, or_comm]
    refine or_congr_left ?_
    omega
  next apart =>
    refine ⟨Or.inr, fun either => either.resolve_left ?_⟩
    rintro rfl
    exact apart rfl
end Bitfield

namespace Transfer

variable {t u : Transfer} {peer other : PeerId}

theorem bitfield?_of_peers_eq (same : u.peers = t.peers) (peer : PeerId) :
    u.bitfield? peer = t.bitfield? peer := by
  rw [bitfield?, bitfield?, same]

theorem bitfield?_putPeer_self (bits : Bytes) (peers : u.peers = putPeer peer bits t.peers) :
    u.bitfield? peer = some bits := by
  rw [bitfield?, peers, putPeer, List.lookup_cons_self]

theorem bitfield?_putPeer_of_ne (apart : peer ≠ other) (bits : Bytes)
    (peers : u.peers = putPeer other bits t.peers) : u.bitfield? peer = t.bitfield? peer := by
  rw [bitfield?, peers, putPeer, List.lookup_cons, beq_eq_false_iff_ne.2 apart]
  exact Storage.lookup_filter_of_ne apart t.peers

theorem bitfield?_of_accepted {bits : Bytes} (accepted : t.register peer bits = (true, u)) :
    u.bitfield? peer = some bits := by
  unfold register at accepted
  split at accepted
  next => cases accepted
  next =>
    cases accepted
    exact bitfield?_putPeer_self bits rfl

theorem bitfield?_of_added {piece : Nat} (added : t.addPiece peer piece = (.ok (), u)) :
    ∃ bits, t.bitfield? peer = some bits ∧
      u.bitfield? peer = some (Bitfield.insert bits piece) := by
  unfold addPiece at added
  split at added
  next => cases added
  next =>
    split at added
    next => cases added
    next bits known =>
      cases added
      exact ⟨bits, known, bitfield?_putPeer_self _ rfl⟩

def Call.Concerns (peer : PeerId) : Call → Prop
  | .register other _ | .unregister other | .addPiece other _ => other = peer
  | _ => False

instance (peer : PeerId) : (call : Call) → Decidable (call.Concerns peer)
  | .register other _ | .unregister other | .addPiece other _ =>
    inferInstanceAs (Decidable (other = peer))
  | .pick .. | .deliver .. => .isFalse id

theorem bitfield?_call {call : Call} (apart : ¬ call.Concerns peer) :
    (t.call call).2.bitfield? peer = t.bitfield? peer := by
  cases call with
  | register other bits =>
    unfold Transfer.call register
    dsimp only
    split
    · rfl
    · exact bitfield?_putPeer_of_ne (Ne.symm apart) bits rfl
  | unregister other =>
    unfold Transfer.call unregister
    dsimp only
    split
    · exact Storage.lookup_filter_of_ne (Ne.symm apart) t.peers
    · rfl
  | addPiece other piece =>
    unfold Transfer.call addPiece
    dsimp only
    split
    · rfl
    · split
      · rfl
      · exact bitfield?_putPeer_of_ne (Ne.symm apart) _ rfl
  | pick other now => exact bitfield?_of_peers_eq (t.peers_pick other now) peer
  | deliver i offset data disk =>
    exact bitfield?_of_peers_eq (t.peers_deliver i offset data disk) peer

end Transfer

end Swarm
