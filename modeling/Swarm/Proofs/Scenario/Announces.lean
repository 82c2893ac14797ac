import Swarm.Proofs.Client.Announcing
import Swarm.Proofs.Peer.Discipline
import Swarm.Proofs.Scenario.Connections
import Swarm.Scenario.Download

/-!
The announces of a whole download. Whatever the tasks of a download do, they change the transfer by
calls only, and an announce reads it at its own turns; so a run of the download is, to an announce
that is on its way, a sequence of calls and reads (`announces_in_turns`).
-/

namespace Swarm.Scenario

open Client (Announcing Joint)

def Reached (t t' : Transfer) : Prop := ∃ calls : List Transfer.Call, t' = t.after calls

theorem Reached.refl (t : Transfer) : Reached t t := ⟨[], rfl⟩

theorem Reached.trans {t u v : Transfer} (first : Reached t u) (second : Reached u v) :
    Reached t v := by
  obtain ⟨calls, rfl⟩ := first
  obtain ⟨more, rfl⟩ := second
  exact ⟨calls ++ more, (t.after_append calls more).symm⟩

theorem Reached.call (t : Transfer) (c : Transfer.Call) : Reached t (t.call c).2 := ⟨[c], rfl⟩

/-! ### Workers -/

theorem reached_gather (parts : List Bytes) (wanted : Nat) (inbox : List Inbound) (t : Transfer) :
    Reached t (Remote.gather parts wanted inbox t).transfer := by
  induction inbox generalizing parts wanted t with
  | nil => cases wanted <;> exact .refl t
  | cons item rest ih =>
    cases wanted with
    | zero => exact .refl t
    | succ n =>
      cases item with
      | drop peer => exact (Reached.call t (.unregister peer)).trans (ih _ _ _)
      | octets b =>
        simp only [Remote.gather]
        split
        next => exact ih _ _ _
        next => exact .refl t

theorem reached_read (n : Nat) (x : Remote × Transfer) :
    Reached x.2 (Remote.read n x).2.2 := by
  have gathered := reached_gather [] n x.1.inbox x.2
  unfold Remote.read
  dsimp only
  split <;> exact gathered

theorem Connection.reached_step (c : Connection) (now : Nat) (t : Transfer) :
    Reached t (c.step now t).2 := by
  cases want : c.session.want with
  | nothing => rw [Connection.step, want]; exact .refl t
  | send octets => rw [Connection.step_send want]; exact .refl t
  | handshake =>
    rw [Connection.step_handshake want rfl]
    exact Reader.handshake_relates (R := fun x y => Reached x.2 y.2) reached_read (c.remote, t)
  | message =>
    rw [Connection.step_message want rfl]
    exact Reader.message_relates (R := fun x y => Reached x.2 y.2) reached_read .trans (c.remote, t)
  | transfer =>
    rw [Connection.step_turn want]
    rcases (c.session.turn_step t now .smooth).from_ with same | ⟨call, made⟩
    · rw [same]; exact .refl t
    · rw [made]; exact .call t call

theorem Agent.reached_serve (a : Agent) (c : Connection) (w : World) :
    Reached w.transfer (a.serve c w).2.transfer := by
  unfold Agent.serve
  split
  next => exact .refl _
  next => exact c.reached_step w.now w.transfer

theorem Agent.reached_step {context : SessionContext} {a a' : Agent} {w w' : World}
    (step : a.step context w = some (a', w')) : Reached w.transfer w'.transfer := by
  unfold Agent.step at step
  split at step
  next => cases step
  next =>
    split at step
    next => cases step
    next => cases step; exact .refl _
    next =>
      obtain ⟨order, -, same⟩ := Option.map_eq_some_iff.1 step
      cases same
      exact .refl _
    next =>
      split at step
      next => cases step
      next => cases step; exact .refl _
      next => cases step; exact .refl _
    next =>
      split at step
      next => cases step; exact .refl _
      next c _ =>
        have same : (a.serve c w).2 = w' := congrArg Prod.snd (Option.some.inj step)
        exact same ▸ a.reached_serve c w

/-! ### The supervisor -/

namespace Run

variable {t : Transfer} {r : Run}

/-- The transfer of a download that began with `t` comes from calls, and an announce that is on its
way from calls and reads. -/
structure Follows (t : Transfer) (r : Run) : Prop where
  reached : Reached t r.world.transfer
  announcing : ∀ began a, r.watch = .announce began a →
    ∃ moves, Joint.after ⟨t, .begun⟩ moves = ⟨r.world.transfer, a⟩

theorem Follows.of_same {r' : Run} (follows : Follows t r)
    (transfer : r'.world.transfer = r.world.transfer) (watch : r'.watch = r.watch) :
    Follows t r' where
  reached := transfer ▸ follows.reached
  announcing := by
    rw [watch, transfer]
    exact follows.announcing

theorem Follows.of_reached {r' : Run} (reached : Reached t r'.world.transfer)
    (still : ∀ began a, r'.watch ≠ .announce began a) : Follows t r' :=
  ⟨reached, fun began a watch => absurd watch (still began a)⟩

@[simp] theorem release_world (r : Run) : r.release.world = r.world := by
  unfold release
  split <;> rfl

@[simp] theorem release_watch (r : Run) : r.release.watch = r.watch := by
  unfold release
  split <;> rfl

theorem Follows.work (follows : Follows t r) (context : SessionContext) (i : Nat) :
    Follows t (r.work context i) := by
  unfold Run.work
  split
  next => exact follows.of_same rfl rfl
  next agent world found =>
    obtain ⟨a, -, step⟩ := Option.bind_eq_some_iff.1 found
    have made := Agent.reached_step step
    have next : Follows t { r with world := world } := by
      refine ⟨follows.reached.trans made, fun began a watch => ?_⟩
      obtain ⟨moves, same⟩ := follows.announcing began a watch
      obtain ⟨calls, called⟩ := made
      refine ⟨moves ++ calls.map .call, ?_⟩
      rw [Joint.after_append, same, Joint.after_calls, called]
    dsimp only
    split
    · exact next.of_same rfl rfl
    · split
      · exact next.of_same (by rw [release_world]) (release_watch _)
      · exact next.of_same rfl rfl

end Run

namespace Plan

open Run

variable {t : Transfer} {r : Run}

theorem follows_watch (p : Plan) (follows : Follows t r) : Follows t (p.watch r) := by
  unfold Plan.watch
  split
  next idle _ =>
    dsimp only
    split
    · exact .of_reached follows.reached nofun
    · exact .of_reached follows.reached nofun
    · exact .of_reached (by simpa [doze, block] using follows.reached) nofun
    · refine ⟨by simpa using follows.reached, ?_⟩
      rintro _ _ ⟨⟩
      obtain ⟨calls, made⟩ := follows.reached
      exact ⟨calls.map .call, by rw [Joint.after_calls, release_world, made]⟩
  next began a watch =>
    obtain ⟨moves, same⟩ := follows.announcing began a watch
    split
    next => exact .of_reached (by simpa [doze, block, send] using follows.reached) nofun
    next =>
      refine ⟨by simpa using follows.reached, ?_⟩
      rintro _ _ ⟨⟩
      refine ⟨moves ++ [.read], ?_⟩
      rw [Joint.after_append, same, release_world]
      rfl
  next => exact follows.of_same rfl rfl
  next => exact follows.of_same rfl rfl

theorem follows_wake (p : Plan) (follows : Follows t r) : Follows t (p.wake r) := by
  unfold Plan.wake
  split
  · exact follows.of_same rfl rfl
  · exact .of_reached follows.reached nofun

theorem follows_step (p : Plan) (follows : Follows t r) : Follows t (p.step r) := by
  unfold Plan.step
  split
  next => exact p.follows_wake follows
  next task rest _ =>
    split
    · exact follows.of_same (by rw [release_world]) r.release_watch
    · split
      · exact follows.of_same rfl rfl
      · cases task with
        | supervisor => exact p.follows_watch follows
        | worker i => exact follows.work p.context i

theorem follows_iterate (p : Plan) (follows : Follows t r) (n : Nat) :
    Follows t (p.step^[n] r) := by
  induction n with
  | zero => exact follows
  | succ n ih =>
    rw [Function.iterate_succ_apply']
    exact p.follows_step ih

/-- At any time in a download, an announce that is about to be sent has read its figures at two
turns, with calls of others before the first and between the two. -/
theorem announces_in_turns (p : Plan) (idle : ∀ began a, r.watch ≠ .announce began a) (n : Nat)
    {began left downloaded : Nat} {a : Announcing} (due : (p.step^[n] r).watch = .announce began a)
    (sends : a.read (p.step^[n] r).world.transfer = .bothRead left downloaded) :
    ∃ moves : List Client.Move,
      (Joint.after ⟨r.world.transfer, .begun⟩ moves).announcing = .bothRead left downloaded := by
  have follows := p.follows_iterate (.of_reached (.refl _) idle) n
  obtain ⟨moves, same⟩ := follows.announcing began a due
  refine ⟨moves ++ [.read], ?_⟩
  rw [Joint.after_append, same]
  exact sends

end Plan

end Swarm.Scenario
