import Swarm.Client.Supervision
import Swarm.Peer.Queue
import Swarm.Proofs.Torrent.InfoHash
import Swarm.Proofs.Transfer.Disk
import Swarm.Proofs.Transfer.Finished

/-!
When the tracker is asked again, and what its answers do to the queue, over whole runs of the
supervisor. In a run the supervisor takes its turns while time passes, workers take orders from the
queue and call on the transfer, and the tracker replies as it likes. What the supervisor decides,
and what it makes of a reply, is `Supervisor.decide` and `Supervisor.answered`.

What carries the argument is what holds at each stage of the supervisor (`Orderly`). While it does
not announce, it remembers the last announce and the interval that this brought, if any. Once it is
about to announce, the time for that has come, and remains so: time only passes, and where it has
come because the queue is empty, the queue stays empty.
-/

namespace Swarm.Client

open Tracker (HttpReply Interval Response TrackerError)
open Storage (OutputFile Tree)
open Transfer (Call)

structure Terms where
  descriptor : Descriptor
  ownId : PeerId
  port : UInt16
  /-- How long to wait when the queue has run dry, in nanoseconds. -/
  reannounce : Nat

/-- What a web server's reply to a report amounts to; a text says why there is none. -/
def Terms.answer (terms : Terms) (left downloaded : Nat) (reply : Except String HttpReply) :
    Except TrackerError Response :=
  (Tracker.announce (fun _ _ => (reply, ())) terms.descriptor.announce
    (report terms.descriptor terms.ownId terms.port left downloaded) ()).1

inductive Stage where
  | asleep
  | awake (idle : Bool)
  | looked (idle complete : Bool)
  | timed (idle complete : Bool) (time : Nat)
  | due
  | announcing (began : Nat) (a : Announcing)
  | ended (outcome : Except DownloadError Unit)

def Stage.sawComplete : Stage → Bool
  | .looked _ complete | .timed _ complete _ => complete
  | .ended (.ok ()) => true
  | _ => false

structure Announced where
  began : Nat
  queue : Queue
  reply? : Option (Except String HttpReply)

/-- The reply to an announce is in the range of success, and this is what it says. -/
def Announced.Brought (a : Announced) (r : Response) : Prop :=
  ∃ reply, a.reply? = some (.ok reply) ∧ reply.isSuccess = true ∧ Response.parse reply.body = .ok r

/-- The interval that an earlier announce brought was over when an announce began, or the queue had
run dry and the time to wait in that case was over. -/
def Announced.DueAfter (reannounce : Nat) (later earlier : Announced) : Prop :=
  (∃ r n, earlier.Brought r ∧ r.interval = .seconds n ∧
    earlier.began + n * 1000000000 ≤ later.began) ∨
  (later.queue.isEmpty = true ∧ earlier.began + reannounce ≤ later.began)

structure Supervision where
  supervisor : Supervisor
  stage : Stage
  now : Nat
  queue : Queue
  transfer : Transfer
  /-- The announces that were made, the latest first. -/
  log : List Announced
  /-- The orders that workers have taken, the latest first. -/
  taken : List Order

namespace Supervision

inductive Move where
  | pass (time : Nat)
  | call (c : Call)
  | take
  /-- The supervisor's moves, of which the one is made that its stage calls for. -/
  | tick (idle : Bool)
  | look
  | clock
  | decide
  | begin
  | read
  | reply (reply : Except String HttpReply)

def refilled (q : Queue) : Option (List Peer) → Queue
  | none => q
  | some peers => q.refill peers

def replied (terms : Terms) (s : Supervision) (reply : Except String HttpReply) : Supervision :=
  match s.stage, s.log with
  | .announcing began (.bothRead left downloaded), current :: older =>
    let (supervisor, peers) := s.supervisor.answered began (terms.answer left downloaded reply)
    { s with
      supervisor := supervisor
      stage := .asleep
      queue := refilled s.queue peers
      log := { current with reply? := some reply } :: older }
  | _, _ => s

def move (terms : Terms) (s : Supervision) : Move → Supervision
  | .pass time => { s with now := s.now + time }
  | .call c => { s with transfer := (s.transfer.call c).2 }
  | .take =>
    match s.queue.pop? with
    | none => s
    | some (order, queue) => { s with queue := queue, taken := order :: s.taken }
  | .tick idle =>
    match s.stage with
    | .asleep => { s with stage := .awake idle }
    | _ => s
  | .look =>
    match s.stage with
    | .awake idle => { s with stage := .looked idle s.transfer.isComplete }
    | _ => s
  | .clock =>
    match s.stage with
    | .looked idle complete => { s with stage := .timed idle complete s.now }
    | _ => s
  | .decide =>
    match s.stage with
    | .timed idle complete time =>
      match s.supervisor.decide ⟨time, complete, idle, s.queue.isEmpty⟩ with
      | .finished => { s with stage := .ended (.ok ()) }
      | .abandoned => { s with stage := .ended (.error .abandoned) }
      | .wait => { s with stage := .asleep }
      | .announce => { s with stage := .due }
    | _ => s
  | .begin =>
    match s.stage with
    | .due =>
      { s with stage := .announcing s.now .begun, log := ⟨s.now, s.queue, none⟩ :: s.log }
    | _ => s
  | .read =>
    match s.stage with
    | .announcing began a => { s with stage := .announcing began (a.read s.transfer) }
    | _ => s
  | .reply reply => s.replied terms reply

def after (terms : Terms) (s : Supervision) (moves : List Move) : Supervision :=
  moves.foldl (move terms) s

def start (terms : Terms) (t : Transfer) (began now : Nat) (reply : Except String HttpReply) :
    Except DownloadError Supervision :=
  match terms.answer t.bytesLeft t.downloaded reply with
  | .error e => .error (.tracker e)
  | .ok first =>
    if first.peers.isEmpty then .error .noPeers
    else .ok {
      supervisor := ⟨now, first.interval, terms.reannounce⟩
      stage := .asleep
      now := now
      queue := Queue.empty.refill first.peers
      transfer := t
      log := [⟨began, .empty, some reply⟩]
      taken := [] }

/-- The move is a reply in the range of success that names some peers. -/
def Move.Brings (m : Move) (peers : List Peer) : Prop :=
  ∃ reply r, m = .reply (.ok reply) ∧ reply.isSuccess = true ∧
    Response.parse reply.body = .ok r ∧ r.peers = peers ∧ peers ≠ []

end Supervision

/-! ### Answers -/

variable {terms : Terms} {left downloaded : Nat} {reply : Except String HttpReply} {r : Response}

/-- An announce fails unless there is a reply, and a reply outside the range of success says only
that the tracker cannot be had. -/
theorem Terms.answer_eq_ok (answered : terms.answer left downloaded reply = .ok r) :
    ∃ http, reply = .ok http ∧
      ((http.isSuccess = true ∧ Response.parse http.body = .ok r) ∨ r = .unavailable) := by
  unfold Terms.answer Tracker.announce at answered
  split at answered
  next => cases answered
  next =>
    cases reply with
    | error text => cases answered
    | ok http =>
      refine ⟨http, rfl, ?_⟩
      unfold Response.ofReply at answered
      dsimp only at answered
      split at answered
      next success => exact Or.inl ⟨success, answered⟩
      next => exact Or.inr (Except.ok.inj answered).symm

/-- No answer says that there is no time to ask again. -/
theorem interval_of_parse {body : Bytes} (read : Response.parse body = .ok r) :
    ∃ n < UInt64.size, r.interval = .seconds n := by
  have bounded : ∀ answer n, Response.intervalOf answer = .ok n → n < UInt64.size := by
    intro answer n given
    unfold Response.intervalOf at given
    split at given
    next => cases given
    next => cases given
    next m _ =>
      cases given
      exact Nat.lt_of_le_of_lt (Nat.min_le_right m _) (by decide)
  unfold Response.parse at read
  obtain ⟨answer, -, read⟩ := bind_eq_ok_iff.1 read
  split at read
  next => split at read <;> cases read
  next =>
    split at read
    next => cases read
    next =>
      obtain ⟨n, given, read⟩ := bind_eq_ok_iff.1 read
      obtain ⟨peers, -, same⟩ := bind_eq_ok_iff.1 read
      cases same
      exact ⟨n, bounded answer n given, rfl⟩

variable {s : Supervisor} {began : Nat} {answer : Except TrackerError Response}

theorem Supervisor.answered_interval (s : Supervisor) (began : Nat)
    (answer : Except TrackerError Response) :
    (s.answered began answer).1.interval = .never ∨
      ∃ r, answer = .ok r ∧ (s.answered began answer).1.interval = r.interval := by
  cases answer with
  | error e => exact Or.inl rfl
  | ok r => exact Or.inr ⟨r, rfl, rfl⟩

theorem Supervisor.answered_kept (s : Supervisor) (began : Nat)
    (answer : Except TrackerError Response) :
    (s.answered began answer).1.announcedAt = began ∧
      (s.answered began answer).1.reannounce = s.reannounce := by
  cases answer <;> exact ⟨rfl, rfl⟩

theorem Supervisor.answered_peers {peers : List Peer}
    (refills : (s.answered began answer).2 = some peers) :
    ∃ r, answer = .ok r ∧ r.isUnavailable = false ∧ r.peers = peers ∧ peers ≠ [] := by
  cases answer with
  | error e => cases refills
  | ok r =>
    unfold answered at refills
    dsimp only at refills
    split at refills
    next => cases refills
    next useful =>
      cases refills
      simp only [Bool.or_eq_true, not_or, Bool.not_eq_true, List.isEmpty_eq_false_iff] at useful
      exact ⟨r, rfl, useful.1, rfl, useful.2⟩

/-- The supervisor asks again when the interval is over, or when the queue has run dry and the time
to wait in that case is over. -/
theorem Supervisor.decide_eq_announce {sight : Sight} (due : s.decide sight = .announce) :
    (∃ n, s.interval = .seconds n ∧ n * 1000000000 ≤ sight.now - s.announcedAt) ∨
      (sight.queueEmpty = true ∧ s.reannounce ≤ sight.now - s.announcedAt) := by
  unfold decide at due
  dsimp only at due
  split at due
  next => cases due
  next =>
    split at due
    next => cases due
    next =>
      split at due
      next either =>
        simp only [Bool.or_eq_true, Bool.and_eq_true, decide_eq_true_eq] at either
        apply either.imp_left
        intro past
        cases interval : s.interval with
        | never => rw [interval] at past; cases past
        | seconds n =>
          rw [interval] at past
          exact ⟨n, rfl, of_decide_eq_true past⟩
      next => cases due

theorem Supervisor.complete_of_decide {sight : Sight} (finished : s.decide sight = .finished) :
    sight.complete = true := by
  unfold decide at finished
  dsimp only at finished
  split at finished
  next complete => exact complete
  next =>
    split at finished
    next => cases finished
    next => split at finished <;> cases finished

namespace Supervision

/-! ### What a move does -/

inductive Step (terms : Terms) (s : Supervision) : Move → Supervision → Prop
  | still (m : Move) : Step terms s m s
  | pass (time : Nat) : Step terms s (.pass time) { s with now := s.now + time }
  | call (c : Call) : Step terms s (.call c) { s with transfer := (s.transfer.call c).2 }
  | take {order : Order} {rest : List Order} (front : s.queue.orders = order :: rest) :
      Step terms s .take { s with queue := ⟨rest⟩, taken := order :: s.taken }
  | tick (idle : Bool) (stage : s.stage = .asleep) :
      Step terms s (.tick idle) { s with stage := .awake idle }
  | look {idle : Bool} (stage : s.stage = .awake idle) :
      Step terms s .look { s with stage := .looked idle s.transfer.isComplete }
  | clock {idle complete : Bool} (stage : s.stage = .looked idle complete) :
      Step terms s .clock { s with stage := .timed idle complete s.now }
  | finish {idle : Bool} {time : Nat} (stage : s.stage = .timed idle true time) :
      Step terms s .decide { s with stage := .ended (.ok ()) }
  | abandon {idle complete : Bool} {time : Nat} (stage : s.stage = .timed idle complete time) :
      Step terms s .decide { s with stage := .ended (.error .abandoned) }
  | wait {idle complete : Bool} {time : Nat} (stage : s.stage = .timed idle complete time) :
      Step terms s .decide { s with stage := .asleep }
  | ripen {idle complete : Bool} {time : Nat} (stage : s.stage = .timed idle complete time)
      (due : (∃ n, s.supervisor.interval = .seconds n ∧
          n * 1000000000 ≤ time - s.supervisor.announcedAt) ∨
        (s.queue.isEmpty = true ∧
          s.supervisor.reannounce ≤ time - s.supervisor.announcedAt)) :
      Step terms s .decide { s with stage := .due }
  | begin (stage : s.stage = .due) : Step terms s .begin
      { s with stage := .announcing s.now .begun, log := ⟨s.now, s.queue, none⟩ :: s.log }
  | read {began : Nat} {a : Announcing} (stage : s.stage = .announcing began a) :
      Step terms s .read { s with stage := .announcing began (a.read s.transfer) }
  | reply {began left downloaded : Nat} {current : Announced} {older : List Announced}
      {reply : Except String HttpReply} {supervisor : Supervisor} {peers : Option (List Peer)}
      (stage : s.stage = .announcing began (.bothRead left downloaded))
      (log : s.log = current :: older)
      (answered : s.supervisor.answered began (terms.answer left downloaded reply) =
        (supervisor, peers)) :
      Step terms s (.reply reply)
        { s with
          supervisor := supervisor
          stage := .asleep
          queue := refilled s.queue peers
          log := { current with reply? := some reply } :: older }

variable {s u : Supervision} {m : Move}

theorem decide_step (terms : Terms) (s : Supervision) :
    Step terms s .decide (s.move terms .decide) := by
  simp only [move]
  split
  next idle complete time stage =>
    split
    next finished =>
      cases Supervisor.complete_of_decide finished
      exact .finish stage
    next => exact .abandon stage
    next => exact .wait stage
    next due => exact .ripen stage (Supervisor.decide_eq_announce due)
  next => exact .still _

theorem move_step (terms : Terms) (s : Supervision) (m : Move) :
    Step terms s m (s.move terms m) := by
  cases m with
  | pass time => exact .pass time
  | call c => exact .call c
  | take =>
    simp only [move, Queue.pop?]
    cases front : s.queue.orders with
    | nil => exact .still _
    | cons order rest => exact .take front
  | tick idle =>
    simp only [move]
    split
    next stage => exact .tick idle stage
    next => exact .still _
  | look =>
    simp only [move]
    split
    next stage => exact .look stage
    next => exact .still _
  | clock =>
    simp only [move]
    split
    next stage => exact .clock stage
    next => exact .still _
  | decide => exact decide_step terms s
  | begin =>
    simp only [move]
    split
    next stage => exact .begin stage
    next => exact .still _
  | read =>
    simp only [move]
    split
    next stage => exact .read stage
    next => exact .still _
  | reply reply =>
    simp only [move, replied]
    split
    next stage log => exact .reply stage log rfl
    next => exact .still _

theorem after_cons (terms : Terms) (s : Supervision) (m : Move) (rest : List Move) :
    s.after terms (m :: rest) = (s.move terms m).after terms rest := rfl

theorem after_append (terms : Terms) (s : Supervision) (first second : List Move) :
    s.after terms (first ++ second) = (s.after terms first).after terms second :=
  List.foldl_append

theorem after_calls (terms : Terms) (s : Supervision) (calls : List Call) :
    s.after terms (calls.map .call) = { s with transfer := s.transfer.after calls } := by
  induction calls generalizing s with
  | nil => rfl
  | cons c rest ih => exact ih (s.move terms (.call c))

theorem move_take (terms : Terms) {order : Order} {queue : Queue}
    (front : s.queue.orders = order :: queue.orders) :
    s.move terms .take = { s with queue := queue, taken := order :: s.taken } := by
  simp only [move, Queue.pop?, front]

theorem after_look (terms : Terms) {idle : Bool} (stage : s.stage = .awake idle) {d : Decision}
    (decided : s.supervisor.decide ⟨s.now, s.transfer.isComplete, idle, s.queue.isEmpty⟩ = d) :
    s.after terms [.look, .clock, .decide] = { s with
      stage := match d with
        | .finished => .ended (.ok ())
        | .abandoned => .ended (.error .abandoned)
        | .wait => .asleep
        | .announce => .due } := by
  simp only [after, List.foldl_cons, List.foldl_nil, move, stage, decided]
  cases d <;> rfl

theorem brings_of_answered {supervisor : Supervisor} {began : Nat} {peers : List Peer}
    (answered : s.supervisor.answered began (terms.answer left downloaded reply) =
      (supervisor, some peers)) : Move.Brings (.reply reply) peers := by
  obtain ⟨r, given, useful, named, some_there⟩ :=
    Supervisor.answered_peers (congrArg Prod.snd answered)
  obtain ⟨http, rfl, ⟨success, read⟩ | rfl⟩ := Terms.answer_eq_ok given
  · exact ⟨http, r, rfl, success, read, named, some_there⟩
  · cases useful

/-! ### The announces -/

def Rested (s : Supervision) : Prop :=
  ∃ last older, s.log = last :: older ∧ last.began ≤ s.supervisor.announcedAt ∧
    (s.supervisor.interval = .never ∨ ∃ r, last.Brought r ∧ s.supervisor.interval = r.interval)

def Ripe (s : Supervision) : Prop :=
  (∃ n, s.supervisor.interval = .seconds n ∧
    s.supervisor.announcedAt + n * 1000000000 ≤ s.now) ∨
  (s.queue.isEmpty = true ∧ s.supervisor.announcedAt + s.supervisor.reannounce ≤ s.now)

def Placed (s : Supervision) : Prop :=
  match s.stage with
  | .timed _ _ time => s.Rested ∧ s.supervisor.announcedAt ≤ time ∧ time ≤ s.now
  | .due => s.Rested ∧ s.Ripe
  | .announcing began _ =>
    ∃ current older, s.log = current :: older ∧ current.began = began ∧ began ≤ s.now
  | _ => s.Rested

/-- Every announce was due after the one before it, and the supervisor is where it is by rights. -/
structure Orderly (reannounce : Nat) (s : Supervision) : Prop where
  settings : s.supervisor.reannounce = reannounce
  chain : s.log.IsChain (Announced.DueAfter reannounce)
  clock : s.supervisor.announcedAt ≤ s.now
  placed : s.Placed

variable {reannounce : Nat}

theorem Orderly.of_others (orderly : s.Orderly reannounce)
    (supervisor : u.supervisor = s.supervisor) (stage : u.stage = s.stage) (log : u.log = s.log)
    (later : s.now ≤ u.now) (dry : s.queue.isEmpty = true → u.queue.isEmpty = true) :
    u.Orderly reannounce := by
  obtain ⟨settings, chain, clock, placed⟩ := orderly
  have rested : s.Rested → u.Rested := by
    unfold Rested
    rw [supervisor, log]
    exact id
  constructor
  case settings => rw [supervisor, settings]
  case chain => rw [log]; exact chain
  case clock => rw [supervisor]; exact clock.trans later
  case placed =>
    unfold Placed at placed ⊢
    rw [stage]
    split at placed
    next =>
      obtain ⟨before, after, reached⟩ := placed
      exact ⟨rested before, supervisor ▸ after, reached.trans later⟩
    next =>
      obtain ⟨before, ripe⟩ := placed
      refine ⟨rested before, ?_⟩
      unfold Ripe at ripe ⊢
      rw [supervisor]
      rcases ripe with ⟨n, interval, past⟩ | ⟨empty, past⟩
      · exact Or.inl ⟨n, interval, past.trans later⟩
      · exact Or.inr ⟨dry empty, past.trans later⟩
    next =>
      obtain ⟨current, older, same, start, past⟩ := placed
      exact ⟨current, older, log.trans same, start, past.trans later⟩
    next => exact rested placed

theorem Ripe.dueAfter (ripe : s.Ripe) {last : Announced}
    (early : last.began ≤ s.supervisor.announcedAt)
    (known : s.supervisor.interval = .never ∨
      ∃ r, last.Brought r ∧ s.supervisor.interval = r.interval) :
    Announced.DueAfter s.supervisor.reannounce ⟨s.now, s.queue, none⟩ last := by
  rcases ripe with ⟨n, interval, past⟩ | ⟨empty, past⟩
  · left
    rcases known with never | ⟨r, brought, same⟩
    · cases interval.symm.trans never
    · exact ⟨r, n, brought, same.symm.trans interval, by dsimp only; omega⟩
  · exact Or.inr ⟨empty, by dsimp only; omega⟩

theorem rested_of_answered (current : Announced) {began : Nat} {supervisor : Supervisor}
    {peers : Option (List Peer)}
    (answered : s.supervisor.answered began (terms.answer left downloaded reply) =
      (supervisor, peers)) :
    supervisor.announcedAt = began ∧ supervisor.reannounce = s.supervisor.reannounce ∧
    (supervisor.interval = .never ∨
      ∃ r, { current with reply? := some reply }.Brought r ∧ supervisor.interval = r.interval) := by
  have same : (s.supervisor.answered began (terms.answer left downloaded reply)).1 = supervisor :=
    congrArg Prod.fst answered
  have interval := Supervisor.answered_interval s.supervisor began
    (terms.answer left downloaded reply)
  have kept := s.supervisor.answered_kept began (terms.answer left downloaded reply)
  rw [same] at interval kept
  refine ⟨kept.1, kept.2, ?_⟩
  rcases interval with never | ⟨r, given, interval⟩
  · exact Or.inl never
  · obtain ⟨http, rfl, ⟨success, read⟩ | rfl⟩ := Terms.answer_eq_ok given
    · exact Or.inr ⟨r, ⟨http, rfl, success, read⟩, interval⟩
    · exact Or.inl interval

theorem Step.orderly (step : Step terms s m u) (orderly : s.Orderly reannounce) :
    u.Orderly reannounce := by
  have placed := orderly.placed
  unfold Placed at placed
  cases step with
  | still => exact orderly
  | pass time => exact orderly.of_others rfl rfl rfl (Nat.le_add_right _ _) id
  | call c => exact orderly.of_others rfl rfl rfl le_rfl id
  | take front =>
    refine orderly.of_others rfl rfl rfl le_rfl fun empty => ?_
    rw [Queue.isEmpty, front] at empty
    cases empty
  | tick idle stage =>
    rw [stage] at placed
    exact ⟨orderly.settings, orderly.chain, orderly.clock, placed⟩
  | look stage =>
    rw [stage] at placed
    exact ⟨orderly.settings, orderly.chain, orderly.clock, placed⟩
  | clock stage =>
    rw [stage] at placed
    exact ⟨orderly.settings, orderly.chain, orderly.clock, placed, orderly.clock, le_rfl⟩
  | finish stage =>
    rw [stage] at placed
    exact ⟨orderly.settings, orderly.chain, orderly.clock, placed.1⟩
  | abandon stage =>
    rw [stage] at placed
    exact ⟨orderly.settings, orderly.chain, orderly.clock, placed.1⟩
  | wait stage =>
    rw [stage] at placed
    exact ⟨orderly.settings, orderly.chain, orderly.clock, placed.1⟩
  | ripen stage due =>
    rw [stage] at placed
    obtain ⟨rested, first, last⟩ := placed
    refine ⟨orderly.settings, orderly.chain, orderly.clock, rested, ?_⟩
    rcases due with ⟨n, interval, past⟩ | ⟨empty, past⟩
    · exact Or.inl ⟨n, interval, by dsimp only; omega⟩
    · exact Or.inr ⟨empty, by dsimp only; omega⟩
  | begin stage =>
    rw [stage] at placed
    obtain ⟨⟨last, older, log, early, known⟩, ripe⟩ := placed
    refine ⟨orderly.settings, ?_, orderly.clock, _, _, rfl, rfl, le_rfl⟩
    have due := ripe.dueAfter early known
    have chain := orderly.chain
    rw [orderly.settings] at due
    rw [log] at chain ⊢
    exact List.isChain_cons_cons.2 ⟨due, chain⟩
  | read stage =>
    rw [stage] at placed
    exact ⟨orderly.settings, orderly.chain, orderly.clock, placed⟩
  | @reply began _ _ current older reply _ _ stage log answered =>
    rw [stage] at placed
    obtain ⟨first, rest, log', start, early⟩ := placed
    obtain ⟨rfl, rfl⟩ := List.cons.inj (log.symm.trans log')
    obtain ⟨time, settings, known⟩ := rested_of_answered current answered
    -- The reply to an announce does not count for when it was due.
    have same : ∀ {earlier : Announced}, Announced.DueAfter reannounce current earlier →
        Announced.DueAfter reannounce { current with reply? := some reply } earlier := id
    have chain := orderly.chain
    rw [log] at chain
    exact ⟨settings.trans orderly.settings, chain.imp_head same, time.trans_le early, _, older, rfl,
      (start.trans time.symm).le, known⟩

/-! ### The queue -/

/-- A move leaves the queue as it is, or a worker takes the order at its front, or it is filled with
the peers of an answer. -/
theorem Step.queue (step : Step terms s m u) :
    (u.queue = s.queue ∧ u.taken = s.taken) ∨
    (m = .take ∧ ∃ order, s.queue.orders = order :: u.queue.orders ∧
      u.taken = order :: s.taken) ∨
    ∃ peers, m.Brings peers ∧ u.queue = s.queue.refill peers ∧ u.taken = s.taken := by
  cases step with
  | take front => exact Or.inr (Or.inl ⟨rfl, _, front, rfl⟩)
  | @reply _ _ _ _ _ _ _ peers _ _ answered =>
    cases peers with
    | none => exact Or.inl ⟨rfl, rfl⟩
    | some peers => exact Or.inr (Or.inr ⟨peers, brings_of_answered answered, rfl, rfl⟩)
  | _ => exact Or.inl ⟨rfl, rfl⟩

/-- As long as no answer brings peers, orders leave the queue only to be taken by a worker. -/
theorem queue_after (terms : Terms) (s : Supervision) (moves : List Move)
    (nothing : ∀ m ∈ moves, ∀ peers, ¬ m.Brings peers) : ∃ taken,
      s.queue.orders = taken ++ (s.after terms moves).queue.orders ∧
      (s.after terms moves).taken = taken.reverse ++ s.taken := by
  induction moves generalizing s with
  | nil => exact ⟨[], rfl, rfl⟩
  | cons m rest ih =>
    obtain ⟨taken, queue, record⟩ :=
      ih (s.move terms m) fun n later => nothing n (List.mem_cons_of_mem _ later)
    rcases (move_step terms s m).queue with ⟨same, none_taken⟩ | ⟨-, order, front, one⟩ |
      ⟨peers, brings, -⟩
    · rw [same] at queue
      rw [none_taken] at record
      exact ⟨taken, queue, record⟩
    · rw [queue] at front
      rw [one] at record
      refine ⟨order :: taken, front, record.trans ?_⟩
      rw [List.reverse_cons, List.append_assoc, List.singleton_append]
    · exact absurd brings (nothing m List.mem_cons_self peers)

/-! ### The end -/

/-- The transfer comes from calls, and it is complete if the supervisor has seen it so. -/
structure Watched (first : Transfer) (s : Supervision) : Prop where
  reached : ∃ calls : List Call, s.transfer = first.after calls
  content : s.transfer.content = first.content
  tallied : s.transfer.Tallied
  complete : s.stage.sawComplete = true → s.transfer.isComplete = true

variable {first : Transfer}

theorem Step.watched (step : Step terms s m u) (watched : s.Watched first) :
    u.Watched first := by
  obtain ⟨reached, content, tallied, complete⟩ := watched
  cases step with
  | still => exact ⟨reached, content, tallied, complete⟩
  | pass time => exact ⟨reached, content, tallied, complete⟩
  | take front => exact ⟨reached, content, tallied, complete⟩
  | call c =>
    obtain ⟨calls, same⟩ := reached
    refine ⟨⟨calls ++ [c], ?_⟩, (s.transfer.content_call c).trans content, tallied.call c,
      fun seen => tallied.isComplete_call (complete seen) c⟩
    rw [Transfer.after_append, ← same]
    rfl
  | look stage => exact ⟨reached, content, tallied, id⟩
  | clock stage =>
    rw [stage] at complete
    exact ⟨reached, content, tallied, complete⟩
  | finish stage =>
    rw [stage] at complete
    exact ⟨reached, content, tallied, complete⟩
  | _ => exact ⟨reached, content, tallied, nofun⟩

/-! ### Runs -/

theorem after_induction {P : Supervision → Prop} (moves : List Move)
    (kept : ∀ s m u, Step terms s m u → P s → P u) (holds : P s) : P (s.after terms moves) := by
  induction moves generalizing s with
  | nil => exact holds
  | cons m rest ih => exact ih (kept s m _ (move_step terms s m) holds)

variable {began now : Nat}

theorem start_eq_ok (started : start terms first began now reply = .ok s) : ∃ r,
    terms.answer first.bytesLeft first.downloaded reply = .ok r ∧ r.peers ≠ [] ∧
    s = ⟨⟨now, r.interval, terms.reannounce⟩, .asleep, now, Queue.empty.refill r.peers, first,
      [⟨began, .empty, some reply⟩], []⟩ := by
  unfold start at started
  split at started
  next => cases started
  next r given =>
    split at started
    next => cases started
    next named =>
      have some_there : r.peers ≠ [] := fun nobody => named (List.isEmpty_iff.2 nobody)
      exact ⟨r, given, some_there, (Except.ok.inj started).symm⟩

theorem orderly_start (started : start terms first began now reply = .ok s) (early : began ≤ now) :
    s.Orderly terms.reannounce := by
  obtain ⟨r, given, named, rfl⟩ := start_eq_ok started
  refine ⟨rfl, .singleton _, le_rfl, _, _, rfl, early, Or.inr ⟨r, ?_, rfl⟩⟩
  obtain ⟨http, rfl, ⟨success, read⟩ | rfl⟩ := Terms.answer_eq_ok given
  · exact ⟨http, rfl, success, read⟩
  · exact absurd rfl named

theorem watched_start (started : start terms first began now reply = .ok s)
    (tallied : first.Tallied) : s.Watched first := by
  obtain ⟨r, -, -, rfl⟩ := start_eq_ok started
  exact ⟨⟨[], rfl⟩, rfl, tallied, nofun⟩

end Supervision

/-- In every run of the supervisor, an announce is made after another one only when the interval
that this one brought is over, or when the queue has run dry and the time to wait in that case is
over. Where it brought nothing, because there was no reply or none of success that can be read, only
the latter will do. The queue changes only by orders that workers take from its front, and by
answers that name peers; until there is such an answer, every order that was in the queue is still
there or was taken. Where the supervisor has ended well, every piece is done, and has its digest in
the file. Every interval that is brought is a number of seconds, never the one of no answer. -/
theorem announces_when_due {maxPeers requestTimeout : Nat} {file : OutputFile} {began now : Nat}
    {s : Supervision}
    (started : Supervision.start terms
      (.start terms.descriptor.content maxPeers requestTimeout file) began now reply = .ok s)
    (early : began ≤ now) (moves : List Supervision.Move) :
    let c := terms.descriptor.content
    let u := s.after terms moves
    u.log.IsChain (Announced.DueAfter terms.reannounce) ∧
    (∀ newer later earlier older, u.log = newer ++ later :: earlier :: older →
      (∀ r, ¬ earlier.Brought r) →
      later.queue.isEmpty = true ∧ earlier.began + terms.reannounce ≤ later.began) ∧
    (∀ m, let v := u.move terms m
      v.queue = u.queue ∨ (m = .take ∧ ∃ order, u.queue.orders = order :: v.queue.orders) ∨
        ∃ peers, m.Brings peers ∧ v.queue = u.queue.refill peers) ∧
    (∀ more, (∀ m ∈ more, ∀ peers, ¬ m.Brings peers) → ∃ taken,
      u.queue.orders = taken ++ (u.after terms more).queue.orders ∧
        (u.after terms more).taken = taken.reverse ++ u.taken) ∧
    (u.stage = .ended (.ok ()) →
      u.transfer.isComplete = true ∧ (∀ i < c.pieceCount, i ∈ u.transfer.finished) ∧
      (c.WellFormed → file.length = c.length →
        ∀ i < c.pieceCount, c.pieceHash? i = some (sha1 (u.transfer.onDisk i)))) ∧
    ∀ a ∈ u.log, ∀ r, a.Brought r → ∃ n < UInt64.size, r.interval = .seconds n := by
  intro c u
  have orderly : u.Orderly terms.reannounce :=
    Supervision.after_induction moves (fun _ _ _ step held => step.orderly held)
      (Supervision.orderly_start started early)
  have watched : u.Watched (.start c maxPeers requestTimeout file) :=
    Supervision.after_induction moves (fun _ _ _ step held => step.watched held)
      (Supervision.watched_start started (Transfer.tallied_start c maxPeers requestTimeout file))
  refine ⟨orderly.chain, ?_, ?_, u.queue_after terms, ?_, ?_⟩
  · intro newer later earlier older split nothing
    have chain := orderly.chain
    rw [split] at chain
    have due := (List.isChain_cons_cons.1 chain.right_of_append).1
    exact due.resolve_left fun ⟨r, _, brought, _⟩ => nothing r brought
  · intro m v
    exact (Supervision.move_step terms u m).queue.imp And.left
      (Or.imp (And.imp_right fun ⟨order, front, _⟩ => ⟨order, front⟩)
        fun ⟨peers, brings, same, _⟩ => ⟨peers, brings, same⟩)
  · intro ended
    have complete := watched.complete (by rw [ended]; rfl)
    have all : ∀ i < c.pieceCount, i ∈ u.transfer.finished := by
      intro i known
      refine watched.tallied.mem_of_isComplete complete ?_
      rwa [Transfer.totalPieces, watched.content]
    refine ⟨complete, all, fun wf full i known => ?_⟩
    obtain ⟨calls, same⟩ := watched.reached
    have saved : u.transfer.Saved := same ▸ ((Transfer.Sound.start wf maxPeers requestTimeout
      file).after_saved (Transfer.saved_start maxPeers requestTimeout full) calls).1
    have digest := saved.finished i (all i known)
    rwa [watched.content] at digest
  · intro a _ r brought
    obtain ⟨_, _, _, read⟩ := brought
    exact interval_of_parse read

namespace Sample

def threeOctets : Terms :=
  ⟨⟨"http://1.2.3.4/", default, Transfer.Sample.content⟩, default, 6881, 500⟩

def onePeer : Except String HttpReply := .ok ⟨200, Bytes.ofText "d8:intervali1e5:peers6:abcdefe"⟩

/-- A worker takes the only order, and the queue stays empty for a while. -/
def dry : List Supervision.Move :=
  [.take, .pass 600, .tick false, .look, .clock, .decide, .begin]

end Sample

theorem announces_when_due_sample : ∃ s, Supervision.start Sample.threeOctets
    (.start Transfer.Sample.content 4 1000 (.ofContent "out" 3 [9])) 0 5 Sample.onePeer = .ok s ∧
    (s.after Sample.threeOctets Sample.dry).log.map Announced.began = [605, 0] ∧
    (s.after Sample.threeOctets Sample.dry).log.IsChain (Announced.DueAfter 500) := by
  refine ⟨_, rfl, by decide +kernel, ?_⟩
  have started : Supervision.start Sample.threeOctets (.start Transfer.Sample.content 4 1000
    (.ofContent "out" 3 [9])) 0 5 Sample.onePeer = .ok _ := rfl
  exact (announces_when_due started (by decide) Sample.dry).1

end Swarm.Client
