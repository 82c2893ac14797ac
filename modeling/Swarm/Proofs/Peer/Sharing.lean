import Swarm.Peer.Session
import Swarm.Proofs.Transfer.Peers

/-!
Sessions that share a download: any number of them, taking steps one at a time in any order.

What the world outside does is a part of each step, so nothing is assumed of the peers, of the
connections or of the disk. A session's turn with the download is one step, as no other session can
come in between.
-/

namespace Swarm

open Storage (DiskOutcome)

namespace Session

/-- What happens to a session. What it does not wait for passes it by. -/
inductive Happening where
  | begins
  | sent (failure : Option SystemError)
  | greeted (reply : Except HandshakeFault Handshake)
  | received (reply : Except MessageFault Message)
  | turn (now : Nat) (disk : DiskOutcome)

def Happening.isTurn : Happening → Bool
  | turn .. => true
  | _ => false

def step (s : Session) (t : Transfer) : Happening → Session × Transfer
  | .begins => (s.start, t)
  | .sent failure => (s.sent failure, t)
  | .greeted reply => (s.greeted reply, t)
  | .received reply => (s.received reply, t)
  | .turn now disk => s.turn t now disk

def holding? (s : Session) : Option PeerId := if s.isRegistered then s.remoteId? else none

def leaving? (s : Session) : Option PeerId :=
  match s.stage with
  | .leave remote _ => some remote
  | _ => none

end Session

structure Sharing where
  transfer : Transfer
  sessions : List Session

namespace Sharing

def holding? (g : Sharing) (i : Nat) : Option PeerId := g.sessions[i]?.bind Session.holding?

def leaving? (g : Sharing) (i : Nat) : Option PeerId := g.sessions[i]?.bind Session.leaving?

def step (g : Sharing) (i : Nat) (h : Session.Happening) : Sharing :=
  match g.sessions[i]? with
  | none => g
  | some s => ⟨(s.step g.transfer h).2, g.sessions.set i (s.step g.transfer h).1⟩

def run (g : Sharing) (moves : List (Nat × Session.Happening)) : Sharing :=
  moves.foldl (fun g move => g.step move.1 move.2) g

end Sharing

/-! ### What a step does to a registration -/

namespace Session

theorem holding?_eq_some_iff {s : Session} {remote : PeerId} :
    s.holding? = some remote ↔ s.isRegistered = true ∧ s.remoteId? = some remote :=
  Option.ite_none_right_eq_some

theorem exists_holding? {s : Session} (registered : s.isRegistered = true) :
    ∃ remote, s.holding? = some remote := by
  obtain ⟨_, _, _, _, _, stage, _, _⟩ := s
  cases stage with
  | dialogue remote d => exact ⟨remote, holding?_eq_some_iff.2 ⟨registered, rfl⟩⟩
  | leave remote => exact ⟨remote, rfl⟩
  | _ => cases registered

theorem finish_of_registered {s : Session} {remote : PeerId} {d : Dialogue}
    (stage : s.stage = .dialogue remote d)
    (registered : d.isRegistered = true) (result : Except SessionError Unit) :
    s.finish remote result = { s with stage := .leave remote result } := by
  have known : s.isRegistered = true := by rwa [isRegistered, stage]
  rw [finish, if_pos known]

theorem finish_of_unregistered {s : Session} {remote : PeerId} {d : Dialogue}
    (stage : s.stage = .dialogue remote d)
    (unregistered : d.isRegistered = false) (result : Except SessionError Unit) :
    s.finish remote result = { s with stage := .ended (some remote) result } := by
  have unknown : s.isRegistered = false := by rwa [isRegistered, stage]
  rw [finish, unknown, if_neg Bool.false_ne_true]

section Finish

variable (s : Session) (remote : PeerId)

theorem remoteId?_finish (result : Except SessionError Unit) :
    (s.finish remote result).remoteId? = some remote := by
  unfold finish
  split <;> rfl

theorem remoteId?_proceed {α : Type} (outcome : Except TransferError α) :
    (s.proceed remote outcome).remoteId? = some remote := by
  cases outcome with
  | error e => exact s.remoteId?_finish remote _
  | ok => rfl

end Finish

/-! Only a turn with the download changes whether the peer is registered. -/

theorem isRegistered_start (s : Session) : s.start.isRegistered = s.isRegistered := by
  obtain ⟨_, _, _, _, _, stage, _, _⟩ := s
  cases stage <;> rfl

theorem isRegistered_sent (s : Session) (failure : Option SystemError) :
    (s.sent failure).isRegistered = s.isRegistered := by
  obtain ⟨_, _, _, _, _, stage, _, _⟩ := s
  cases stage with
  | sendHandshake => cases failure <;> rfl
  | dialogue remote d =>
    cases d <;> cases failure <;> rfl
  | _ => rfl

theorem isRegistered_greeted (s : Session) (reply : Except HandshakeFault Handshake) :
    (s.greeted reply).isRegistered = s.isRegistered := by
  obtain ⟨_, _, _, _, _, stage, _, _⟩ := s
  cases stage with
  | awaitHandshake =>
    unfold greeted
    dsimp only
    split
    · rfl
    · rfl
    · split <;> rfl
  | _ => rfl

theorem isRegistered_received (s : Session) (reply : Except MessageFault Message) :
    (s.received reply).isRegistered = s.isRegistered := by
  obtain ⟨_, _, _, _, _, stage, _, _⟩ := s
  cases stage with
  | dialogue remote d =>
    cases reply with
    | error fault => cases d <;> rfl
    | ok m =>
      cases d with
      | awaitBitfield => cases m <;> rfl
      | awaitMessage => cases m <;> rfl
      | _ => rfl
  | _ => rfl

/-! An id that a peer has given stays the id of its session. -/

section RemoteId

variable {s : Session} {remote : PeerId} (known : s.remoteId? = some remote)
include known

theorem remoteId?_start : s.start.remoteId? = some remote := by
  obtain ⟨_, _, _, _, _, stage, _, _⟩ := s
  cases stage with
  | idle => cases known
  | _ => exact known

theorem remoteId?_sent (failure : Option SystemError) :
    (s.sent failure).remoteId? = some remote := by
  obtain ⟨_, _, _, _, _, stage, _, _⟩ := s
  cases stage with
  | sendHandshake => cases known
  | dialogue other d =>
    cases d <;> cases failure <;> exact known
  | _ => exact known

theorem remoteId?_greeted (reply : Except HandshakeFault Handshake) :
    (s.greeted reply).remoteId? = some remote := by
  obtain ⟨_, _, _, _, _, stage, _, _⟩ := s
  cases stage with
  | awaitHandshake => cases known
  | _ => exact known

theorem remoteId?_received (reply : Except MessageFault Message) :
    (s.received reply).remoteId? = some remote := by
  obtain ⟨_, _, _, _, _, stage, _, _⟩ := s
  cases stage with
  | dialogue other d =>
    cases reply with
    | error fault => cases d <;> exact known
    | ok m =>
      cases d with
      | awaitBitfield => cases m <;> exact known
      | awaitMessage => cases m <;> exact known
      | _ => exact known
  | _ => exact known

theorem remoteId?_turn (t : Transfer) (now : Nat) (disk : DiskOutcome) :
    (s.turn t now disk).1.remoteId? = some remote := by
  obtain ⟨_, _, _, _, _, stage, _, _⟩ := s
  cases stage with
  | dialogue other d =>
    unfold turn
    cases d with
    | register bits => dsimp only; split <;> exact known
    | checkComplete => dsimp only; split <;> exact known
    | addPiece i => exact (remoteId?_proceed _ other _).trans known
    | deliver i offset block => exact (remoteId?_proceed _ other _).trans known
    | fill =>
      dsimp only
      split
      · split <;> exact known
      · exact known
    | _ => exact known
  | _ => exact known

end RemoteId

/-! ### Turns with the download -/

section Turn

variable {s : Session} {t : Transfer} {remote : PeerId} {now : Nat} {disk : DiskOutcome}

theorem turn_of_leaving? (leaving : s.leaving? = some remote) (t : Transfer) (now : Nat)
    (disk : DiskOutcome) : (s.turn t now disk).1.isRegistered = false ∧
      (s.turn t now disk).2 = (t.unregister remote).2 := by
  obtain ⟨_, _, _, _, _, stage, _, _⟩ := s
  cases stage with
  | leave other result =>
    cases leaving
    exact ⟨rfl, rfl⟩
  | _ => cases leaving

theorem isRegistered_turn_cases (registered : (s.turn t now disk).1.isRegistered = true) :
    s.isRegistered = true ∨ ∃ remote, (s.turn t now disk).1.remoteId? = some remote ∧
      (s.turn t now disk).2.isRegistered remote = true := by
  obtain ⟨_, _, _, _, _, stage, _, _⟩ := s
  cases stage with
  | leave => exact Or.inl rfl
  | dialogue remote d =>
    cases d with
    | awaitBitfield => exact Or.inl registered
    | register bits =>
      unfold turn at registered ⊢
      dsimp only at registered ⊢
      split at registered
      next accepted => exact Or.inr ⟨remote, rfl, Transfer.isRegistered_register_self accepted⟩
      next => exact Or.inl registered
    | _ => exact Or.inl rfl
  | _ => exact Or.inl registered

/-- Only a session that ends its registration under an id takes that id out of the table. -/
theorem isRegistered_turn (known : t.isRegistered remote = true)
    (stays : s.leaving? ≠ some remote) : (s.turn t now disk).2.isRegistered remote = true := by
  obtain ⟨_, _, _, _, _, stage, _, _⟩ := s
  cases stage with
  | leave other result =>
    refine Transfer.isRegistered_unregister known ?_
    rintro rfl
    exact stays rfl
  | dialogue other d =>
    unfold turn
    cases d with
    | register bits =>
      have kept := Transfer.isRegistered_register known other bits
      dsimp only
      split
      next accepted => rwa [accepted] at kept
      next refused => rwa [refused] at kept
    | checkComplete =>
      dsimp only
      split <;> exact known
    | addPiece i => exact Transfer.isRegistered_addPiece known other i
    | deliver i offset block =>
      exact (Transfer.isRegistered_of_peers_eq (t.peers_deliver ..) remote).trans known
    | fill =>
      have kept := (Transfer.isRegistered_of_peers_eq (t.peers_pick other now) remote).trans known
      dsimp only
      split
      · split
        next picked => rwa [picked] at kept
        next picked => rwa [picked] at kept
        next picked => rwa [picked] at kept
      · exact known
    | _ => exact known
  | _ => exact known

end Turn

end Session

end Swarm
