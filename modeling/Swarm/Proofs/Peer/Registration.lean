import Mathlib.Data.List.Basic
import Swarm.Proofs.Peer.Sharing

/-!
How long a session finds its peer registered. The table of peers has one entry for an id, so two
sessions that met the same id share it, and the first of them to end takes it away from the other.
As long as no session does so, one that has registered its peer is never told that the peer is
unknown.
-/

namespace Swarm

open Storage (DiskOutcome)

namespace Session

variable {s : Session} {t : Transfer} {remote : PeerId}

theorem holding?_of_same {next : Session} (registered : next.isRegistered = s.isRegistered)
    (id : ∀ remote, s.remoteId? = some remote → next.remoteId? = some remote)
    (holding : next.holding? = some remote) : s.holding? = some remote := by
  obtain ⟨known, same⟩ := holding?_eq_some_iff.1 holding
  obtain ⟨other, before⟩ := exists_holding? (registered ▸ known)
  cases (id other (holding?_eq_some_iff.1 before).2).symm.trans same
  exact before

theorem isRegistered_step (kept : s.holding? = some remote → t.isRegistered remote = true)
    (h : Happening) (holding : (s.step t h).1.holding? = some remote) :
    (s.step t h).2.isRegistered remote = true := by
  cases h with
  | begins =>
    exact kept (holding?_of_same s.isRegistered_start (fun _ => remoteId?_start) holding)
  | sent failure =>
    exact kept (holding?_of_same (s.isRegistered_sent failure)
      (fun _ known => remoteId?_sent known failure) holding)
  | greeted reply =>
    exact kept (holding?_of_same (s.isRegistered_greeted reply)
      (fun _ known => remoteId?_greeted known reply) holding)
  | received reply =>
    exact kept (holding?_of_same (s.isRegistered_received reply)
      (fun _ known => remoteId?_received known reply) holding)
  | turn now disk =>
    obtain ⟨registered, same⟩ := holding?_eq_some_iff.1 holding
    rcases isRegistered_turn_cases registered with before | ⟨other, id, found⟩
    -- It had registered the peer already, and a session that leaves would have no registration now.
    · obtain ⟨other, held⟩ := exists_holding? before
      cases (remoteId?_turn (holding?_eq_some_iff.1 held).2 t now disk).symm.trans same
      refine isRegistered_turn (kept held) ?_
      intro leaving
      cases (turn_of_leaving? leaving t now disk).1.symm.trans registered
    · cases id.symm.trans same
      exact found

end Session

namespace Sharing

def Kept (g : Sharing) (i : Nat) : Prop :=
  ∀ remote, g.holding? i = some remote → g.transfer.isRegistered remote = true

/-- In a move, another session ends its registration under the id that session `i` has registered
its peer with. -/
def Revokes (g : Sharing) (i : Nat) (move : Nat × Session.Happening) : Prop :=
  move.1 ≠ i ∧ move.2.isTurn = true ∧
    ∃ remote, g.holding? i = some remote ∧ g.leaving? move.1 = some remote

def Undisturbed (i : Nat) : Sharing → List (Nat × Session.Happening) → Prop
  | _, [] => True
  | g, move :: rest => ¬ g.Revokes i move ∧ Undisturbed i (g.step move.1 move.2) rest

instance (g : Sharing) (i : Nat) (move : Nat × Session.Happening) : Decidable (g.Revokes i move) :=
  inferInstanceAs (Decidable (_ ∧ _ ∧ ∃ remote, remote ∈ g.holding? i ∧ _))

instance decidableUndisturbed (i : Nat) :
    (g : Sharing) → (moves : List (Nat × Session.Happening)) → Decidable (Undisturbed i g moves)
  | _, [] => .isTrue trivial
  | g, move :: rest =>
    have := decidableUndisturbed i (g.step move.1 move.2) rest
    inferInstanceAs (Decidable (_ ∧ _))

variable {g : Sharing} {i j : Nat} {s : Session} {h : Session.Happening} {remote : PeerId}

theorem step_eq (found : g.sessions[j]? = some s) :
    g.step j h = ⟨(s.step g.transfer h).2, g.sessions.set j (s.step g.transfer h).1⟩ := by
  rw [step, found]

theorem holding?_step_of_ne (apart : j ≠ i) : (g.step j h).holding? i = g.holding? i := by
  cases found : g.sessions[j]? with
  | none => rw [step, found]
  | some s => rw [step_eq found, holding?, holding?, List.getElem?_set_ne apart]

theorem Kept.step (kept : g.Kept i) (undisturbed : ¬ g.Revokes i (j, h)) : (g.step j h).Kept i := by
  cases found : g.sessions[j]? with
  | none =>
    rw [Sharing.step, found]
    exact kept
  | some s =>
    intro remote holding
    by_cases own : j = i
    · subst own
      have inside := (List.getElem?_eq_some_iff.1 found).1
      rw [step_eq found] at holding ⊢
      rw [holding?, List.getElem?_set_self inside, Option.bind_some] at holding
      refine Session.isRegistered_step ?_ h holding
      intro held
      exact kept remote (by rw [holding?, found, Option.bind_some, held])
    -- The step of another session takes an id out of the table only in leaving under it.
    · rw [holding?_step_of_ne own] at holding
      have known := kept remote holding
      rw [step_eq found]
      cases h with
      | turn now disk =>
        refine Session.isRegistered_turn known ?_
        intro ending
        have leaving : g.leaving? j = some remote := by
          rw [leaving?, found, Option.bind_some, ending]
        exact undisturbed ⟨own, rfl, remote, holding, leaving⟩
      | _ => exact known

theorem Kept.run (kept : g.Kept i) {moves : List (Nat × Session.Happening)}
    (undisturbed : Undisturbed i g moves) : (g.run moves).Kept i := by
  induction moves generalizing g with
  | nil => exact kept
  | cons move rest ih => exact ih (kept.step undisturbed.1) undisturbed.2

/-- Once another session has ended its registration under an id, the id is unknown. -/
theorem Revokes.isRegistered {move : Nat × Session.Happening} (revokes : g.Revokes i move)
    (holding : g.holding? i = some remote) :
    (g.step move.1 move.2).transfer.isRegistered remote = false := by
  obtain ⟨j, h⟩ := move
  obtain ⟨-, turn, id, held, leaving⟩ := revokes
  cases holding.symm.trans held
  obtain ⟨s, found, ending⟩ := Option.bind_eq_some_iff.1 leaving
  cases h with
  | turn now disk =>
    rw [step_eq found]
    have table : (s.step g.transfer (.turn now disk)).2 = (g.transfer.unregister remote).2 :=
      (Session.turn_of_leaving? ending g.transfer now disk).2
    rw [table]
    exact Bool.eq_false_iff.2 (g.transfer.not_isRegistered_unregister remote)
  | _ => cases turn

end Sharing

/-- A session that has registered its peer finds it registered, and is not told that it is unknown,
as long as no other session ends a registration under the same id. After one does, each of its calls
is refused for that reason, and ending its registration too unless the download is complete. -/
theorem registered_until_revoked {g : Sharing} {i : Nat} (fresh : g.holding? i = none)
    {moves : List (Nat × Session.Happening)} (undisturbed : Sharing.Undisturbed i g moves)
    {remote : PeerId} (holding : (g.run moves).holding? i = some remote) :
    let h := g.run moves
    (h.transfer.isRegistered remote ∧
      (∀ now, ∃ r, (h.transfer.pick remote now).1 = .ok r) ∧
      (∀ piece other, (h.transfer.addPiece remote piece).1 ≠ .error (.unknownPeer other)) ∧
      (h.transfer.unregister remote).1 = .ok ()) ∧
    ∀ move, h.Revokes i move →
      let u := h.step move.1 move.2
      u.holding? i = some remote ∧
      (∀ now, (u.transfer.pick remote now).1 = .error (.unknownPeer remote)) ∧
      (∀ piece < u.transfer.totalPieces,
        (u.transfer.addPiece remote piece).1 = .error (.unknownPeer remote)) ∧
      (¬ u.transfer.isComplete →
        (u.transfer.unregister remote).1 = .error (.unknownPeer remote)) := by
  intro h
  have first : g.Kept i := by
    intro remote held
    cases fresh.symm.trans held
  have known : h.transfer.isRegistered remote = true := first.run undisturbed remote holding
  refine ⟨⟨known, ?_, ?_, ?_⟩, ?_⟩
  · intro now
    cases picked : (h.transfer.pick remote now).1 with
    | error e => cases (Transfer.pick_eq_error_iff.1 picked).1.symm.trans known
    | ok r => exact ⟨r, rfl⟩
  · intro piece other refused
    cases (Transfer.addPiece_eq_unknownPeer_iff.1 refused).2.1.symm.trans known
  · cases ended : (h.transfer.unregister remote).1 with
    | error e => cases (Transfer.unregister_eq_error_iff.1 ended).2.1.symm.trans known
    | ok => rfl
  · intro move revokes u
    have lost : u.transfer.isRegistered remote = false := revokes.isRegistered holding
    refine ⟨(Sharing.holding?_step_of_ne revokes.1).trans holding, ?_, ?_, ?_⟩
    · exact fun now => Transfer.pick_eq_error_iff.2 ⟨lost, rfl⟩
    · exact fun piece inside => Transfer.addPiece_eq_unknownPeer_iff.2 ⟨inside, lost, rfl⟩
    · intro incomplete
      exact Transfer.unregister_eq_error_iff.2 ⟨Bool.eq_false_iff.2 incomplete, lost, rfl⟩

namespace Sharing.Sample

def remote : PeerId := Fixed.fill 20 1

def sharing : Sharing :=
  let session : Session :=
    .new ⟨⟨.v4 ⟨10, 0, 0, 1⟩, 6881, 0⟩, none⟩ (Fixed.fill 20 17) (Fixed.fill 20 2) 1
      (.ofSeconds 120)
  ⟨.start (.ofData "sample" 2 [1, 2, 3]) 4 1000 (.ofContent "out" 3 []), [session, session]⟩

def greeting : List Session.Happening :=
  [.begins, .sent none, .greeted (.ok (Handshake.plain (Fixed.fill 20 17) remote)),
    .received (.ok (.bitfield [192])), .turn 0 .smooth]

/-- Both sessions register the peer, and the connection of the second breaks. -/
def moves : List (Nat × Session.Happening) :=
  greeting.map ((1, ·)) ++ greeting.map ((0, ·)) ++ [(1, .sent (some .earlyEnd))]

def unchoking : List (Nat × Session.Happening) :=
  [(0, .sent none), (0, .turn 1 .smooth), (0, .received (.ok .unchoke)), (0, .turn 2 .smooth)]

end Sharing.Sample

theorem registered_until_revoked_sample :
    let g := Sharing.Sample.sharing
    let h := g.run Sharing.Sample.moves
    let u := h.step 1 (.turn 0 .smooth)
    g.holding? 0 = none ∧ Sharing.Undisturbed 0 g Sharing.Sample.moves ∧
      h.holding? 0 = some Sharing.Sample.remote ∧
      (h.transfer.unregister Sharing.Sample.remote).1 = .ok () ∧
      h.Revokes 0 (1, .turn 0 .smooth) ∧ u.transfer.isComplete = false ∧
      (u.transfer.unregister Sharing.Sample.remote).1 =
        .error (.unknownPeer Sharing.Sample.remote) := by
  intro g h u
  have fresh : g.holding? 0 = none := by decide +kernel
  have undisturbed : Sharing.Undisturbed 0 g Sharing.Sample.moves := by decide +kernel
  have holding : h.holding? 0 = some Sharing.Sample.remote := by decide +kernel
  have revokes : h.Revokes 0 (1, .turn 0 .smooth) := by decide +kernel
  have incomplete : u.transfer.isComplete = false := by decide +kernel
  obtain ⟨⟨-, -, -, before⟩, after⟩ := registered_until_revoked fresh undisturbed holding
  exact ⟨fresh, undisturbed, holding, before, revokes, incomplete,
    (after _ revokes).2.2.2 (Bool.eq_false_iff.1 incomplete)⟩

/-- A session is told that its peer is unknown, while the download is not complete and its own
connection is fine, because a second session with the same peer has ended. -/
theorem registration_lost_to_namesake :
    let u := ((Sharing.Sample.sharing.run Sharing.Sample.moves).step 1 (.turn 0 .smooth)).run
      Sharing.Sample.unchoking
    u.transfer.isComplete = false ∧ u.holding? 0 = some Sharing.Sample.remote ∧
      (u.transfer.pick Sharing.Sample.remote 2).1 = .error (.unknownPeer Sharing.Sample.remote) ∧
      (u.transfer.unregister Sharing.Sample.remote).1 =
        .error (.unknownPeer Sharing.Sample.remote) ∧
      ((u.step 0 (.turn 3 .smooth)).sessions[0]?.bind Session.result?) =
        some (.error (.transfer (.unknownPeer Sharing.Sample.remote))) := by
  decide +kernel

end Swarm
