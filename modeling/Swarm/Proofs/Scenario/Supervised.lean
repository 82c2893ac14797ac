import Swarm.Proofs.Client.Supervising
import Swarm.Proofs.Scenario.Announces

/-!
A download in a network held in memory is supervised as any other: each step of its tasks comes to
some moves of `Client.Supervision`, so what holds of all runs there holds of it (`supervise_shows`).

A task never runs while it waits for the transfer, and while one waits, another has it
(`Scheduled`). So the clock is moved on only when the supervisor sleeps.
-/

namespace Swarm.Scenario

open Client (Announcing DownloadError Supervision Terms)
open Swarm.Tracker (HttpReply Response)

def Watch.stage : Watch → Client.Stage
  | .sleep => .asleep
  | .look idle => .awake idle
  | .announce began a => .announcing began a
  | .over outcome => .ended outcome

def Plan.terms (p : Plan) : Terms := ⟨p.descriptor, p.context.ownId, p.port, p.reannounce⟩

theorem Plan.announce_eq_answer (p : Plan) (left downloaded : Nat) (tracker : Tracker) :
    ∃ reply, (p.announce left downloaded tracker).1 = p.terms.answer left downloaded reply := by
  unfold Plan.announce Terms.answer Swarm.Tracker.announce
  dsimp only [Plan.terms]
  cases (Client.report p.descriptor p.context.ownId p.port left downloaded).url?
    p.descriptor.announce with
  | none => exact ⟨.error "", rfl⟩
  | some target =>
    refine ⟨(Tracker.fetch target tracker).1, ?_⟩
    dsimp only
    split <;> split <;> simp_all

/-! ### Workers -/

/-- A step of a worker takes at most one order, and lets no time pass. -/
theorem Agent.queue_step {context : SessionContext} {a a' : Agent} {w w' : World}
    (step : a.step context w = some (a', w')) : w'.now = w.now ∧
      (w'.queue = w.queue ∨ ∃ order, w.queue.orders = order :: w'.queue.orders) := by
  unfold Agent.step at step
  split at step
  next => cases step
  next =>
    split at step
    next => cases step
    next => cases step; exact ⟨rfl, Or.inl rfl⟩
    next =>
      obtain ⟨⟨order, queue⟩, front, same⟩ := Option.map_eq_some_iff.1 step
      cases same
      refine ⟨rfl, Or.inr ⟨order, ?_⟩⟩
      unfold Queue.pop? at front
      split at front
      next => cases front
      next orders => cases front; exact orders
    next =>
      split at step
      next => cases step
      next => cases step; exact ⟨rfl, Or.inl rfl⟩
      next => cases step; exact ⟨rfl, Or.inl rfl⟩
    next =>
      split at step
      next => cases step; exact ⟨rfl, Or.inl rfl⟩
      next c _ =>
        have same : (a.serve c w).2 = w' := congrArg Prod.snd (Option.some.inj step)
        subst same
        unfold Agent.serve
        split <;> exact ⟨rfl, Or.inl rfl⟩

/-! ### The schedule -/

namespace Run

/-- A supervisor that is awake is about to run or waits for the transfer, and a task waits for it
only while another has it. -/
structure Scheduled (r : Run) : Prop where
  awake : r.watch = .sleep ∨ (∃ outcome, r.watch = .over outcome) ∨ Task.supervisor ∈ r.ready ∨
    Task.supervisor ∈ r.waiting
  held : r.waiting ≠ [] → r.holder ≠ none

variable {r r' : Run} {task : Task} {rest : List Task}

theorem mem_release_ready (ready : task ∈ r.ready) : task ∈ r.release.ready := by
  unfold release
  split
  next => exact ready
  next => exact List.mem_append_left _ ready

theorem Scheduled.release (scheduled : r.Scheduled) : r.release.Scheduled := by
  obtain ⟨awake, -⟩ := scheduled
  constructor
  case awake =>
    rw [release_watch]
    refine awake.imp_right (Or.imp_right fun either => ?_)
    unfold Run.release
    rcases either with ready | waits
    · exact Or.inl (mem_release_ready ready)
    · split
      next nobody => rw [nobody] at waits; cases waits
      next queue =>
        rw [queue] at waits
        rcases List.mem_cons.1 waits with rfl | later
        · exact Or.inl (List.mem_append_right _ List.mem_cons_self)
        · exact Or.inr later
  case held =>
    unfold Run.release
    split
    next nobody => exact fun someone => absurd nobody someone
    next => exact fun _ => Option.some_ne_none _

theorem Scheduled.block (scheduled : r.Scheduled) {i : Nat} (front : r.ready = .worker i :: rest) :
    r.block.Scheduled := by
  refine ⟨scheduled.awake.imp_right (Or.imp_right (Or.imp_left fun ready => ?_)), scheduled.held⟩
  rw [front] at ready
  rw [Run.block, front]
  exact (List.mem_cons.1 ready).resolve_left (by simp)

theorem Scheduled.queueUp (scheduled : r.Scheduled) (front : r.ready = task :: rest)
    (taken : r.holder ≠ none) : (r.queueUp task).Scheduled := by
  refine ⟨scheduled.awake.imp_right (Or.imp_right fun either => ?_), fun _ => taken⟩
  rw [Run.queueUp, Run.block, front]
  rw [front] at either
  rcases either with ready | waits
  · rcases List.mem_cons.1 ready with rfl | later
    · exact Or.inr (List.mem_append_right _ List.mem_cons_self)
    · exact Or.inl later
  · exact Or.inr (List.mem_append_left _ waits)

theorem Scheduled.work (scheduled : r.Scheduled) (context : SessionContext) {i : Nat}
    (front : r.ready = .worker i :: rest) : (r.work context i).Scheduled := by
  unfold Run.work
  split
  next => exact scheduled.block front
  next agent world _ =>
    have next : Scheduled { r with agents := r.agents.set i agent, world := world } :=
      ⟨scheduled.awake, scheduled.held⟩
    dsimp only
    split
    · exact ⟨(next.block front).awake, fun _ => Option.some_ne_none _⟩
    · split
      · exact next.release
      · exact next

structure Shows (r : Run) (s : Supervision) : Prop where
  supervisor : s.supervisor = r.supervisor
  stage : s.stage = r.watch.stage
  now : s.now = r.world.now
  queue : s.queue = r.world.queue
  transfer : s.transfer = r.world.transfer
  log : s.log ≠ []

variable {s : Supervision}

@[simp] theorem release_supervisor (r : Run) : r.release.supervisor = r.supervisor := by
  unfold release
  split <;> rfl

theorem Shows.of_same (shows : Shows r s) (supervisor : r'.supervisor = r.supervisor)
    (watch : r'.watch = r.watch) (world : r'.world = r.world) : Shows r' s := by
  obtain ⟨remembered, stage, now, queue, transfer, log⟩ := shows
  constructor
  case supervisor => rw [remembered, supervisor]
  case stage => rw [stage, watch]
  case now => rw [now, world]
  case queue => rw [queue, world]
  case transfer => rw [transfer, world]
  case log => exact log

theorem Shows.go_on (shows : Shows r s) (r' : Run) (supervisor : r'.supervisor = r.supervisor)
    (world : r'.world = r.world) : Shows r' { s with stage := r'.watch.stage } := by
  obtain ⟨remembered, -, now, queue, transfer, log⟩ := shows
  constructor
  case supervisor => rw [remembered, supervisor]
  case stage => rfl
  case now => rw [now, world]
  case queue => rw [queue, world]
  case transfer => rw [transfer, world]
  case log => exact log

theorem Shows.release (shows : Shows r s) : Shows r.release s :=
  shows.of_same r.release_supervisor r.release_watch r.release_world

/-- What a worker does comes to calls on the transfer and at most one order that is taken. -/
theorem Shows.worked (shows : Shows r s) (terms : Terms) {context : SessionContext} {a a' : Agent}
    {w : World} (step : a.step context r.world = some (a', w)) (agents : List Agent) :
    ∃ moves, Shows { r with agents := agents, world := w } (s.after terms moves) := by
  obtain ⟨calls, called⟩ := Agent.reached_step step
  obtain ⟨now, queue⟩ := Agent.queue_step step
  obtain ⟨supervisor, stage, clock, orders, transfer, log⟩ := shows
  rw [← transfer] at called
  rw [← clock] at now
  rcases queue with same | ⟨order, front⟩
  · refine ⟨calls.map .call, ?_⟩
    rw [Supervision.after_calls]
    exact ⟨supervisor, stage, now.symm, orders.trans same.symm, called.symm, log⟩
  · refine ⟨.take :: calls.map .call, ?_⟩
    rw [← orders] at front
    rw [Supervision.after_cons, Supervision.move_take terms front, Supervision.after_calls]
    exact ⟨supervisor, stage, now.symm, rfl, called.symm, log⟩

end Run

namespace Plan

open Run

variable {r : Run} {s : Supervision}

theorem shows_work (p : Plan) (shows : Shows r s) (context : SessionContext) (i : Nat) :
    ∃ moves, Shows (r.work context i) (s.after p.terms moves) := by
  unfold Run.work
  split
  next => exact ⟨[], shows.of_same rfl rfl rfl⟩
  next agent world found =>
    obtain ⟨a, -, step⟩ := Option.bind_eq_some_iff.1 found
    obtain ⟨moves, next⟩ := shows.worked p.terms step (r.agents.set i agent)
    refine ⟨moves, ?_⟩
    dsimp only
    split
    · exact next.of_same rfl rfl rfl
    · split
      · exact next.release
      · exact next

/-- A look of the supervisor comes to its three moves, and to a fourth if it announces. -/
theorem shows_look (p : Plan) (shows : Shows r s) {idle : Bool} (watch : r.watch = .look idle) :
    ∃ moves, Shows (p.watch r) (s.after p.terms moves) := by
  have stage : s.stage = .awake idle := by rw [shows.stage, watch]; rfl
  have sight : s.supervisor.decide ⟨s.now, s.transfer.isComplete, idle, s.queue.isEmpty⟩ =
      r.supervisor.decide
        ⟨r.world.now, r.world.transfer.isComplete, idle, r.world.queue.isEmpty⟩ := by
    rw [shows.supervisor, shows.now, shows.transfer, shows.queue]
  unfold Plan.watch
  rw [watch]
  dsimp only
  split
  next decided =>
    refine ⟨[.look, .clock, .decide], ?_⟩
    rw [Supervision.after_look p.terms stage (sight.trans decided)]
    exact shows.go_on { r with watch := .over (.ok ()) } rfl rfl
  next decided =>
    refine ⟨[.look, .clock, .decide], ?_⟩
    rw [Supervision.after_look p.terms stage (sight.trans decided)]
    exact shows.go_on { r with watch := .over (.error .abandoned) } rfl rfl
  next decided =>
    refine ⟨[.look, .clock, .decide], ?_⟩
    rw [Supervision.after_look p.terms stage (sight.trans decided)]
    exact shows.go_on r.release.doze r.release_supervisor r.release_world
  next decided =>
    refine ⟨[.look, .clock, .decide] ++ [.begin], ?_⟩
    rw [Supervision.after_append, Supervision.after_look p.terms stage (sight.trans decided)]
    have next := shows.release
    exact ⟨next.supervisor, congrArg (Client.Stage.announcing · .begun) shows.now, next.now,
      next.queue, next.transfer, List.cons_ne_nil _ _⟩

theorem shows_send (p : Plan) (shows : Shows r s) (began left downloaded : Nat) : ∃ reply,
    Shows (p.send r began left downloaded).doze
      (Supervision.replied p.terms
        { s with stage := .announcing began (.bothRead left downloaded) } reply) := by
  obtain ⟨reply, answer⟩ := p.announce_eq_answer left downloaded r.tracker
  obtain ⟨current, older, log⟩ := List.exists_cons_of_ne_nil shows.log
  refine ⟨reply, ?_⟩
  unfold Supervision.replied Plan.send
  simp only [log, ← answer, shows.supervisor]
  constructor
  case supervisor => rfl
  case stage => rfl
  case now => exact shows.now
  case queue =>
    rw [shows.queue]
    cases (r.supervisor.answered began (p.announce left downloaded r.tracker).1).2 <;> rfl
  case transfer => exact shows.transfer
  case log => exact List.cons_ne_nil _ _

theorem shows_announce (p : Plan) (shows : Shows r s) {began : Nat} {a : Announcing}
    (watch : r.watch = .announce began a) : ∃ moves, Shows (p.watch r) (s.after p.terms moves) := by
  have stage : s.stage = .announcing began a := by rw [shows.stage, watch]; rfl
  have read : s.move p.terms .read =
      { s with stage := .announcing began (a.read r.world.transfer) } := by
    simp only [Supervision.move, stage, shows.transfer]
  unfold Plan.watch
  rw [watch]
  dsimp only
  split
  next left downloaded both =>
    obtain ⟨reply, sent⟩ := p.shows_send shows.release began left downloaded
    refine ⟨[.read, .reply reply], ?_⟩
    rw [Supervision.after_cons, read, both]
    exact sent
  next =>
    refine ⟨[.read], ?_⟩
    rw [Supervision.after_cons, read]
    exact shows.release.go_on
      { r.release with watch := .announce began (a.read r.world.transfer) } rfl rfl

theorem scheduled_watch (p : Plan) (scheduled : r.Scheduled)
    (front : Task.supervisor ∈ r.ready) : (p.watch r).Scheduled := by
  have ready : Task.supervisor ∈ r.release.ready := mem_release_ready front
  have held := scheduled.release.held
  unfold Plan.watch
  split
  next =>
    dsimp only
    split
    next => exact ⟨Or.inr (Or.inl ⟨_, rfl⟩), scheduled.held⟩
    next => exact ⟨Or.inr (Or.inl ⟨_, rfl⟩), scheduled.held⟩
    next => exact ⟨Or.inl rfl, held⟩
    next => exact ⟨Or.inr (Or.inr (Or.inl ready)), held⟩
  next =>
    split
    next => exact ⟨Or.inl rfl, held⟩
    next => exact ⟨Or.inr (Or.inr (Or.inl ready)), held⟩
  next watch => exact ⟨Or.inl watch, scheduled.held⟩
  next outcome watch => exact ⟨Or.inr (Or.inl ⟨outcome, watch⟩), scheduled.held⟩

theorem scheduled_wake (p : Plan) (scheduled : r.Scheduled) (none_ready : r.ready = []) :
    (p.wake r).Scheduled := by
  unfold Plan.wake
  split
  next =>
    refine ⟨scheduled.awake.imp_right (Or.imp_right fun either => ?_), scheduled.held⟩
    rw [none_ready] at either
    exact Or.inr (either.resolve_left List.not_mem_nil)
  next => exact ⟨Or.inr (Or.inr (Or.inl List.mem_cons_self)), scheduled.held⟩

theorem scheduled_step (p : Plan) (scheduled : r.Scheduled) : (p.step r).Scheduled := by
  unfold Plan.step
  split
  next none_ready => exact p.scheduled_wake scheduled none_ready
  next task rest front =>
    split
    next => exact scheduled.release
    next =>
      split
      next waits =>
        refine scheduled.queueUp front fun free => ?_
        rw [free] at waits
        simp at waits
      next =>
        cases task with
        | supervisor => exact p.scheduled_watch scheduled (by rw [front]; exact List.mem_cons_self)
        | worker i => exact scheduled.work p.context front

theorem asleep_of_idle (scheduled : r.Scheduled) (none_ready : r.ready = [])
    (free : r.holder = none) (going : ∀ outcome, r.watch ≠ .over outcome) : r.watch = .sleep := by
  rcases scheduled.awake with asleep | ⟨outcome, ended⟩ | ready | waits
  · exact asleep
  · exact absurd ended (going outcome)
  · rw [none_ready] at ready
    cases ready
  · exact absurd free (scheduled.held (List.ne_nil_of_mem waits))

/-- The clock is moved on only while the supervisor sleeps, and wakes it. -/
theorem shows_wake (p : Plan) (shows : Shows r s) (scheduled : r.Scheduled)
    (none_ready : r.ready = []) (going : ∀ outcome, r.watch ≠ .over outcome) :
    ∃ moves, Shows (p.wake r) (s.after p.terms moves) := by
  unfold Plan.wake
  split
  next => exact ⟨[], shows.of_same rfl rfl rfl⟩
  next free =>
    have asleep := asleep_of_idle scheduled none_ready free going
    have stage : s.stage = .asleep := by rw [shows.stage, asleep]; rfl
    refine ⟨[.pass p.tick, .tick (r.agents.all fun a => a.worker.duty == .done)], ?_⟩
    simp only [Supervision.after, List.foldl_cons, List.foldl_nil, Supervision.move, stage]
    exact ⟨shows.supervisor, rfl, congrArg (· + p.tick) shows.now, shows.queue, shows.transfer,
      shows.log⟩

/-- One step of the tasks comes to some moves. -/
theorem shows_step (p : Plan) (shows : Shows r s) (scheduled : r.Scheduled)
    (going : ∀ outcome, r.watch ≠ .over outcome) :
    ∃ moves, Shows (p.step r) (s.after p.terms moves) := by
  unfold Plan.step
  split
  next none_ready => exact p.shows_wake shows scheduled none_ready going
  next task rest front =>
    split
    next => exact ⟨[], shows.release⟩
    next =>
      split
      next => exact ⟨[], shows.of_same rfl rfl rfl⟩
      next =>
        cases task with
        | worker i => exact p.shows_work shows p.context i
        | supervisor =>
          rcases watch : r.watch with _ | idle | ⟨began, a⟩ | outcome
          · dsimp only
            rw [Plan.watch, watch]
            exact ⟨[], shows.of_same rfl rfl rfl⟩
          · exact p.shows_look shows watch
          · exact p.shows_announce shows watch
          · exact absurd watch (going outcome)

theorem supervise_of_over (p : Plan) (fuel : Nat) {outcome : Except DownloadError Unit}
    (ended : r.watch = .over outcome) : p.supervise (fuel + 1) r = (outcome, r) := by
  rw [supervise, ended]

theorem supervise_of_going (p : Plan) (fuel : Nat) (going : ∀ outcome, r.watch ≠ .over outcome) :
    p.supervise (fuel + 1) r = p.supervise fuel (p.step r) := by
  rw [supervise]
  split
  next outcome ended => exact absurd ended (going outcome)
  next => rfl

/-- A supervised download is a run of the supervisor; if it ends well, so does that. -/
theorem supervise_shows (p : Plan) (fuel : Nat) (shows : Shows r s) (scheduled : r.Scheduled)
    {outcome : Except DownloadError Unit} {last : Run}
    (ended : p.supervise fuel r = (outcome, last)) :
    ∃ moves, Shows last (s.after p.terms moves) ∧
      (outcome = .ok () → (s.after p.terms moves).stage = .ended (.ok ())) := by
  induction fuel generalizing r s with
  | zero =>
    cases ended
    exact ⟨[], shows, nofun⟩
  | succ fuel ih =>
    by_cases here : ∃ outcome, r.watch = .over outcome
    · obtain ⟨outcome, watch⟩ := here
      rw [p.supervise_of_over fuel watch] at ended
      cases ended
      refine ⟨[], shows, fun well => ?_⟩
      rw [← well]
      exact shows.stage.trans (congrArg Watch.stage watch)
    · have going : ∀ outcome, r.watch ≠ .over outcome := fun outcome same => here ⟨outcome, same⟩
      rw [p.supervise_of_going fuel going] at ended
      obtain ⟨first, next⟩ := p.shows_step shows scheduled going
      obtain ⟨more, final⟩ := ih next (p.scheduled_step scheduled) ended
      exact ⟨first ++ more, by rwa [Supervision.after_append]⟩

def opening (p : Plan) (t : Transfer) (first : Response) (network : Network) (tracker : Tracker) :
    Run where
  supervisor := ⟨0, first.interval, p.reannounce⟩
  watch := .look (p.workers == 0)
  agents := List.replicate p.workers .new
  world := ⟨t, Queue.empty.refill first.peers, network, 1, 0, []⟩
  tracker := tracker
  ready := [.supervisor]
  holder := none
  waiting := []

theorem work_eq (p : Plan) (path : String) (t : Transfer) (first : Response) (network : Network)
    (tracker : Tracker) : p.work path t first network tracker =
      match p.supervise roundFuel (p.opening t first network tracker) with
      | (.error e, r) => ⟨.error e, none, r.tracker, []⟩
      | (.ok (), r) => ⟨.ok path, some r.world.transfer.file.content, r.tracker,
          p.summary path r.world.transfer⟩ := by
  rw [Plan.work]
  rfl

/-- A whole download, from the first answer of the tracker on, is a run of the supervisor that
begins with this answer. If it ends well, so does the run, and with the same file. -/
theorem work_supervised (p : Plan) (path : String) (t : Transfer) {first : Response}
    {reply : Except String HttpReply}
    (answered : p.terms.answer t.bytesLeft t.downloaded reply = .ok first)
    (named : first.peers.isEmpty = false) (network : Network) (tracker : Tracker) :
    ∃ s moves, Supervision.start p.terms t 0 0 reply = .ok s ∧
      ∀ out, (p.work path t first network tracker).outcome = .ok out →
        (s.after p.terms moves).stage = .ended (.ok ()) ∧
        (p.work path t first network tracker).content =
          some (s.after p.terms moves).transfer.file.content := by
  let s : Supervision := ⟨⟨0, first.interval, p.reannounce⟩, .asleep, 0,
    Queue.empty.refill first.peers, t, [⟨0, .empty, some reply⟩], []⟩
  have started : Supervision.start p.terms t 0 0 reply = .ok s := by
    rw [Supervision.start, answered]
    exact if_neg (Bool.eq_false_iff.1 named)
  have shows : Shows (p.opening t first network tracker)
      (s.move p.terms (.tick (p.workers == 0))) :=
    ⟨rfl, rfl, rfl, rfl, rfl, List.cons_ne_nil _ _⟩
  have scheduled : (p.opening t first network tracker).Scheduled :=
    ⟨Or.inr (Or.inr (Or.inl List.mem_cons_self)), fun someone => absurd rfl someone⟩
  cases ended : p.supervise roundFuel (p.opening t first network tracker) with
  | mk result r =>
    obtain ⟨moves, last, well⟩ := p.supervise_shows roundFuel shows scheduled ended
    refine ⟨s, .tick (p.workers == 0) :: moves, started, fun out outcome => ?_⟩
    rw [work_eq, ended] at outcome ⊢
    cases result with
    | error e => cases outcome
    | ok _ =>
      rw [Supervision.after_cons]
      exact ⟨well rfl, by rw [last.transfer]⟩

end Plan

end Swarm.Scenario
