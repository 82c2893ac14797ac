import Mathlib.Data.List.Nodup
import Swarm.Peer.Worker
import Swarm.Proofs.Peer.Waiting

/-!
What becomes of the orders in a queue, above all of the calls to stop. An order that is taken stood
first; nothing else leaves but peers whose place a refill takes. So what was taken and what still
stands is, in this order, part of what was put in (`sublist_delivered`), and no call to stop is
lost (`count_stop_delivered`).

A worker that is told to stop is done and waits no more (`Crew.Sound.move`). So no worker takes two
calls to stop, and as long as there are as many calls as workers, one is left for each worker that
has not been told (`no_stop_lost`).
-/

namespace Swarm

namespace WaitRoom

variable {r : WaitRoom} {worker : Nat}

/-! ### What moves take and put in -/

def taken? (r : WaitRoom) : Move → Option Order
  | .take => r.take.1
  | .look worker => if worker ∈ r.looking then r.take.1 else none
  | _ => none

def put : Move → List Order
  | .add order => [order]
  | .refill peers => peers.map .connect
  | _ => []

def Move.isStop : Move → Bool
  | .add order => order.isStop
  | _ => false

/-- What stands in the queue once a move has put its orders in and before it takes one. -/
def standing (r : WaitRoom) : Move → List Order
  | .add order => r.queue.orders ++ [order]
  | .refill peers => r.queue.orders.filter Order.isStop ++ peers.map .connect
  | _ => r.queue.orders

def delivered (r : WaitRoom) : List Move → List Order
  | [] => []
  | m :: moves => (r.taken? m).toList ++ (r.move m).delivered moves

@[simp] theorem queue_notify (r : WaitRoom) : r.notify.queue = r.queue := by
  rcases r.notify_cases with ⟨-, same⟩ | ⟨_, _, -, same⟩ <;> rw [same]

@[simp] theorem served_notify (r : WaitRoom) : r.notify.served = r.served := by
  rcases r.notify_cases with ⟨-, same⟩ | ⟨_, _, -, same⟩ <;> rw [same]

@[simp] theorem queue_notifyIfAny (r : WaitRoom) : r.notifyIfAny.queue = r.queue := by
  rcases r.notifyIfAny_cases with ⟨-, same⟩ | same <;> simp [same]

@[simp] theorem served_notifyIfAny (r : WaitRoom) : r.notifyIfAny.served = r.served := by
  rcases r.notifyIfAny_cases with ⟨-, same⟩ | same <;> simp [same]

@[simp] theorem queue_payNotice (r : WaitRoom) : r.payNotice.queue = r.queue := by
  unfold payNotice
  split <;> simp

@[simp] theorem served_payNotice (r : WaitRoom) : r.payNotice.served = r.served := by
  unfold payNotice
  split <;> simp

theorem take_of_isEmpty (empty : r.queue.isEmpty = true) : r.take = (none, r) := by
  rcases r.take_cases with ⟨-, taken⟩ | ⟨order, rest, queue, -⟩
  · exact taken
  · rw [queue] at empty
    cases empty

theorem take_of_orders {order : Order} {rest : List Order} (queue : r.queue = ⟨order :: rest⟩) :
    r.take = (some order, ({ r with queue := ⟨rest⟩ }).notifyIfAny) := by
  unfold take
  rw [queue]
  rfl

theorem take_orders (r : WaitRoom) :
    r.take.1.toList ++ r.take.2.queue.orders = r.queue.orders := by
  rcases r.take_cases with ⟨-, taken⟩ | ⟨order, rest, queue, taken⟩
  · simp [taken]
  · simp [taken, queue]

/-- A worker that looks leaves the queue as one does that takes an order without waiting. -/
theorem queue_look (here : worker ∈ r.looking) : (r.look worker).queue = r.take.2.queue := by
  rcases look_cases here with ⟨empty, same⟩ | ⟨order, rest, queue, same⟩
  · rw [same, take_of_isEmpty empty]
  · simp [same, take_of_orders queue]

theorem taken?_append_orders (r : WaitRoom) (m : Move) :
    (r.taken? m).toList ++ (r.move m).queue.orders = r.standing m := by
  cases m with
  | add order => rfl
  | payNotice => simp [taken?, move, standing]
  | refill peers => simp [taken?, move, standing, refill, Queue.refill]
  | take => exact r.take_orders
  | enter worker => rfl
  | look worker =>
    by_cases here : worker ∈ r.looking
    · simp only [taken?, move, standing, if_pos here, queue_look here]
      exact r.take_orders
    · simp [taken?, move, standing, here, look_of_notMem here]
  | settle worker =>
    by_cases here : worker ∈ r.settling
    · rcases settle_cases here with ⟨-, same⟩ | ⟨-, same⟩ <;> simp [taken?, move, standing, same]
    · simp [taken?, move, standing, settle_of_notMem here]
  | reorder sleepers =>
    simp only [taken?, move, standing]
    split <;> rfl

theorem standing_sublist (r : WaitRoom) (m : Move) :
    (r.standing m).Sublist (r.queue.orders ++ put m) := by
  cases m with
  | refill peers => exact List.filter_sublist.append_right _
  | add order => exact List.Sublist.refl _
  | payNotice | take | enter | look | settle | reorder => simp [standing, put]

theorem count_stop_standing (r : WaitRoom) (m : Move) : (r.standing m).count .stop =
    r.queue.orders.count .stop + if m.isStop then 1 else 0 := by
  cases m with
  | add order => cases order <;> simp [standing, Move.isStop, Order.isStop]
  | refill peers =>
    have none_put : Order.stop ∉ peers.map Order.connect := by simp
    rw [standing, List.count_append, List.count_filter rfl, List.count_eq_zero.2 none_put]
    rfl
  | payNotice | take | enter | look | settle | reorder => rfl

/-- What was taken and what still stands was put in, in this order. -/
theorem sublist_delivered (r : WaitRoom) (moves : List Move) :
    (r.delivered moves ++ (r.after moves).queue.orders).Sublist
      (r.queue.orders ++ moves.flatMap put) := by
  induction moves generalizing r with
  | nil => simp [delivered, after]
  | cons m moves ih =>
    have first : ((r.taken? m).toList ++ (r.move m).queue.orders ++ moves.flatMap put).Sublist
        (r.queue.orders ++ put m ++ moves.flatMap put) := by
      rw [taken?_append_orders]
      exact (r.standing_sublist m).append_right _
    have later := (ih (r.move m)).append_left (r.taken? m).toList
    simp only [delivered, List.flatMap_cons, List.append_assoc] at first later ⊢
    exact later.trans first

/-- The calls to stop that were taken and those that still stand are all that were put in. -/
theorem count_stop_delivered (r : WaitRoom) (moves : List Move) :
    (r.delivered moves).count .stop + (r.after moves).queue.orders.count .stop =
      r.queue.orders.count .stop + moves.countP Move.isStop := by
  induction moves generalizing r with
  | nil => simp [delivered, after]
  | cons m moves ih =>
    have first := congrArg (List.count .stop) (r.taken?_append_orders m)
    have later := ih (r.move m)
    rw [List.count_append, count_stop_standing] at first
    simp only [after, List.foldl_cons] at later ⊢
    rw [delivered, List.count_append, List.countP_cons]
    omega

/-! ### Who has taken what -/

/-- The workers that have taken a call to stop, once for each call, the latest first. -/
def told (r : WaitRoom) : List Nat := (r.served.filter (·.2.isStop)).map Prod.fst

def present (r : WaitRoom) : List Nat := r.looking ++ r.settling ++ r.asleep

theorem present_notify (r : WaitRoom) : r.notify.present.Perm r.present := by
  rcases r.notify_cases with ⟨-, same⟩ | ⟨first, rest, sleepers, same⟩
  · rw [same]
    exact List.Perm.refl _
  · rw [same, present, present, sleepers]
    simp only [List.perm_iff_count, List.count_append, List.count_cons, List.count_nil]
    omega

theorem present_notifyIfAny (r : WaitRoom) : r.notifyIfAny.present.Perm r.present := by
  rcases r.notifyIfAny_cases with ⟨-, same⟩ | same
  · rw [same]
  · rw [same]
    exact r.present_notify

theorem look_effect (here : worker ∈ r.looking) :
    (r.taken? (.look worker) = none ∧ (r.look worker).present.Perm r.present ∧
      (r.look worker).served = r.served) ∨
    ∃ order, r.taken? (.look worker) = some order ∧
      (worker :: (r.look worker).present).Perm r.present ∧
      (r.look worker).served = (worker, order) :: r.served := by
  have once := List.perm_cons_erase here
  have taken : r.taken? (.look worker) = r.take.1 := if_pos here
  rw [taken]
  rcases look_cases here with ⟨empty, same⟩ | ⟨order, rest, queue, same⟩
  · refine Or.inl ⟨by rw [take_of_isEmpty empty], ?_, by rw [same]⟩
    rw [same]
    simp only [present, List.perm_iff_count, List.count_append, List.count_cons,
      List.count_nil] at once ⊢
    intro other
    have all := once other
    omega
  · refine Or.inr ⟨order, by rw [take_of_orders queue], ?_, by simp [same]⟩
    rw [same]
    refine (List.Perm.cons worker (present_notifyIfAny _)).trans ?_
    exact ((once.append_right _).append_right _).symm

theorem settle_effect (r : WaitRoom) (worker : Nat) :
    (r.settle worker).present.Perm r.present ∧ (r.settle worker).served = r.served := by
  by_cases here : worker ∈ r.settling
  · have once := List.perm_cons_erase here
    simp only [List.perm_iff_count, List.count_cons] at once
    rcases settle_cases here with ⟨-, same⟩ | ⟨-, same⟩
    all_goals
      refine ⟨?_, by rw [same]⟩
      rw [same]
      simp only [present, List.perm_iff_count, List.count_append, List.count_cons, List.count_nil]
      intro other
      have all := once other
      omega
  · rw [settle_of_notMem here]
    exact ⟨List.Perm.refl _, rfl⟩

theorem idle_effect {m : Move} (enters : ∀ worker, m ≠ .enter worker)
    (looks : ∀ worker, m ≠ .look worker) (takes : m ≠ .take) :
    (r.move m).present.Perm r.present ∧ (r.move m).served = r.served := by
  cases m with
  | add order => exact ⟨List.Perm.refl _, rfl⟩
  | payNotice =>
    refine ⟨?_, served_payNotice r⟩
    unfold move payNotice
    dsimp only
    split
    next => exact List.Perm.refl _
    next => exact present_notify _
  | refill peers => exact ⟨present_notifyIfAny _, served_notifyIfAny _⟩
  | take => exact absurd rfl takes
  | enter worker => exact absurd rfl (enters worker)
  | look worker => exact absurd rfl (looks worker)
  | settle worker => exact r.settle_effect worker
  | reorder sleepers =>
    simp only [move]
    split
    next same => exact ⟨same.append_left _, rfl⟩
    next => exact ⟨List.Perm.refl _, rfl⟩

theorem length_told_move {m : Move} (takes : m ≠ .take) :
    (r.move m).told.length = r.told.length + (r.taken? m).toList.count .stop := by
  by_cases looks : ∃ worker, m = .look worker
  · obtain ⟨worker, rfl⟩ := looks
    by_cases here : worker ∈ r.looking
    · rcases look_effect here with ⟨taken, -, served⟩ | ⟨order, taken, -, served⟩
      · simp [move, told, served, taken]
      · cases order <;> simp [move, told, served, taken, Order.isStop]
    · simp [move, taken?, here, look_of_notMem here]
  · by_cases enters : ∃ worker, m = .enter worker
    · obtain ⟨worker, rfl⟩ := enters
      rfl
    · have nothing : r.taken? m = none := by
        cases m with
        | look worker => exact absurd ⟨worker, rfl⟩ looks
        | take => exact absurd rfl takes
        | _ => rfl
      have served := (idle_effect (r := r) (not_exists.1 enters) (not_exists.1 looks) takes).2
      rw [told, served, nothing]
      rfl

end WaitRoom

/-! ### A crew -/

structure Crew where
  room : WaitRoom
  workers : List Worker

namespace Crew

inductive Move where
  | room (m : WaitRoom.Move)
  | glance (worker : Nat) (complete : Bool)
  | dial (worker : Nat) (connected : Bool)
  | serve (worker : Nat) (result : Except SessionError Unit)

def Move.isStop : Move → Bool
  | .room m => m.isStop
  | _ => false

variable {c : Crew}

def duty? (c : Crew) (worker : Nat) : Option Duty := c.workers[worker]?.map Worker.duty

def inRoom (c : Crew) : Move → List WaitRoom.Move
  | .room .take | .room (.enter _) => []
  | .room m => [m]
  | .glance worker complete =>
    if c.duty? worker = some .look ∧ complete = false then [.enter worker] else []
  | .dial .. | .serve .. => []

def work (c : Crew) : Move → List Worker
  | .room (.look worker) =>
    c.workers.modify worker fun w => (c.room.taken? (.look worker)).elim w w.ordered
  | .room _ => c.workers
  | .glance worker complete =>
    c.workers.modify worker fun w => if w.duty = .look then w.looked complete else w
  | .dial worker connected => c.workers.modify worker fun w =>
    match w.duty with
    | .dial _ => w.dialled connected
    | _ => w
  | .serve worker result =>
    c.workers.modify worker fun w => if w.duty = .serve then w.served result else w

def move (c : Crew) (m : Move) : Crew := ⟨c.room.after (c.inRoom m), c.work m⟩

def after (c : Crew) (moves : List Move) : Crew := moves.foldl move c

def ofSize (workers : Nat) : Crew := ⟨.empty, List.replicate workers .new⟩

/-- Those who wait are the workers whose duty it is, each once. Those who were told to stop are
done, and none of them was told twice. -/
structure Sound (c : Crew) : Prop where
  present_nodup : c.room.present.Nodup
  mem_present : ∀ worker, worker ∈ c.room.present ↔ c.duty? worker = some .await
  told_nodup : c.room.told.Nodup
  done_of_told : ∀ worker ∈ c.room.told, c.duty? worker = some .done

theorem duty?_modify (workers : List Worker) (room : WaitRoom) (worker other : Nat)
    (f : Worker → Worker) : duty? ⟨room, workers.modify worker f⟩ other =
      if worker = other then workers[other]?.map fun w => (f w).duty
      else workers[other]?.map Worker.duty := by
  rw [duty?, List.getElem?_modify]
  split
  next => cases workers[other]? <;> rfl
  next => cases workers[other]? <;> rfl

theorem sound_ofSize (workers : Nat) : (ofSize workers).Sound where
  present_nodup := List.nodup_nil
  mem_present worker := by
    simp only [ofSize, duty?, WaitRoom.empty, WaitRoom.present, List.append_nil, List.not_mem_nil,
      false_iff, List.getElem?_replicate]
    split <;> nofun
  told_nodup := List.nodup_nil
  done_of_told := nofun

/-- A worker may turn to another duty, but not to waiting, and only if it does not wait and is not
done. -/
def TurnsAway (before after : Option Duty) : Prop :=
  after = before ∨ (before ≠ some .await ∧ before ≠ some .done ∧ after ≠ some .await)

theorem turnsAway_modify {f : Worker → Worker} {worker : Nat}
    (turns : ∀ w, c.workers[worker]? = some w → TurnsAway (some w.duty) (some (f w).duty))
    (room : WaitRoom) (other : Nat) :
    TurnsAway (c.duty? other) (duty? ⟨room, c.workers.modify worker f⟩ other) := by
  rw [duty?_modify, duty?]
  split
  next same =>
    subst same
    cases known : c.workers[worker]? with
    | none => exact Or.inl rfl
    | some w => exact turns w known
  next => exact Or.inl rfl

/-- Nothing is at stake where the same workers wait, nobody is told to stop, and nobody turns away
from waiting or from being done. -/
theorem Sound.of_turnsAway (sound : c.Sound) {d : Crew}
    (present : d.room.present.Perm c.room.present) (told : d.room.told = c.room.told)
    (turns : ∀ worker, TurnsAway (c.duty? worker) (d.duty? worker)) : d.Sound where
  present_nodup := present.nodup_iff.2 sound.present_nodup
  mem_present worker := by
    rw [present.mem_iff, sound.mem_present]
    rcases turns worker with same | ⟨awake, -, away⟩
    · rw [same]
    · exact iff_of_false awake away
  told_nodup := told ▸ sound.told_nodup
  done_of_told worker member := by
    have done := sound.done_of_told worker (told ▸ member)
    rcases turns worker with same | ⟨-, busy, -⟩
    · rw [same, done]
    · exact absurd done busy

theorem Sound.enter (sound : c.Sound) {worker : Nat} (looks : c.duty? worker = some .look)
    {d : Crew} (entered : d.room = c.room.enter worker)
    (duties : ∀ other, d.duty? other = if worker = other then some .await else c.duty? other) :
    d.Sound := by
  have outside : worker ∉ c.room.present := by
    rw [sound.mem_present, looks]
    nofun
  have present : d.room.present.Perm (worker :: c.room.present) := by
    rw [entered]
    simp only [WaitRoom.enter, WaitRoom.present, List.perm_iff_count, List.count_append,
      List.count_cons, List.count_nil]
    omega
  have told : d.room.told = c.room.told := by rw [entered]; rfl
  refine ⟨present.nodup_iff.2 (List.nodup_cons.2 ⟨outside, sound.present_nodup⟩), fun other => ?_,
    told ▸ sound.told_nodup, fun other member => ?_⟩
  · rw [present.mem_iff, List.mem_cons, sound.mem_present, duties]
    split
    next same => simp [same]
    next apart => simp [Ne.symm apart]
  · have done := sound.done_of_told other (told ▸ member)
    rw [duties, if_neg, done]
    rintro rfl
    rw [looks] at done
    cases done

theorem Sound.order (sound : c.Sound) (duty : Duty) {worker : Nat} {order : Order} {d : Crew}
    (present : (worker :: d.room.present).Perm c.room.present)
    (served : d.room.served = (worker, order) :: c.room.served)
    (awake : duty ≠ .await) (stops : order.isStop → duty = .done)
    (duties : ∀ other, d.duty? other = if worker = other then some duty else c.duty? other) :
    d.Sound := by
  have waits : c.duty? worker = some .await :=
    (sound.mem_present worker).1 (present.mem_iff.1 List.mem_cons_self)
  have untold : worker ∉ c.room.told := by
    intro member
    have done := sound.done_of_told worker member
    rw [waits] at done
    cases done
  obtain ⟨outside, nodup⟩ := List.nodup_cons.1 (present.nodup_iff.2 sound.present_nodup)
  have keeps : ∀ other ∈ c.room.told, d.duty? other = some .done := by
    intro other member
    rw [duties, if_neg, sound.done_of_told other member]
    rintro rfl
    exact untold member
  refine ⟨nodup, fun other => ?_, ?_, ?_⟩
  · rw [duties]
    split
    next same => exact iff_of_false (same ▸ outside) fun back => awake (Option.some.inj back)
    next apart =>
      rw [← sound.mem_present, ← present.mem_iff, List.mem_cons]
      exact (or_iff_right (Ne.symm apart)).symm
  · rw [WaitRoom.told, served, List.filter_cons]
    split
    next => exact List.nodup_cons.2 ⟨untold, sound.told_nodup⟩
    next => exact sound.told_nodup
  · intro other member
    rw [WaitRoom.told, served, List.filter_cons] at member
    split at member
    next stop =>
      rcases List.mem_cons.1 member with rfl | earlier
      · rw [duties, if_pos rfl, stops stop]
      · exact keeps other earlier
    next => exact keeps other member

theorem turnsAway_glance {w : Worker} {complete : Bool}
    (stays : ¬(w.duty = .look ∧ complete = false)) :
    TurnsAway (some w.duty) (some (if w.duty = .look then w.looked complete else w).duty) := by
  split
  next looks =>
    have ends : complete = true := Bool.of_not_eq_false fun goes => stays ⟨looks, goes⟩
    rw [looks, ends]
    exact Or.inr ⟨nofun, nofun, nofun⟩
  next => exact Or.inl rfl

theorem turnsAway_dial (w : Worker) (connected : Bool) : TurnsAway (some w.duty)
    (some (match w.duty with | .dial _ => w.dialled connected | _ => w).duty) := by
  split
  next dials =>
    rw [dials]
    refine Or.inr ⟨nofun, nofun, ?_⟩
    cases connected <;> nofun
  next => exact Or.inl rfl

theorem turnsAway_serve (w : Worker) (result : Except SessionError Unit) : TurnsAway (some w.duty)
    (some (if w.duty = .serve then w.served result else w).duty) := by
  split
  next serves =>
    rw [serves]
    refine Or.inr ⟨nofun, nofun, ?_⟩
    cases result <;> nofun
  next => exact Or.inl rfl

theorem Sound.glance (sound : c.Sound) (worker : Nat) (complete : Bool) :
    (c.move (.glance worker complete)).Sound := by
  by_cases looks : c.duty? worker = some .look ∧ complete = false
  · obtain ⟨w, known, duty⟩ := Option.map_eq_some_iff.1 looks.1
    have entered : (c.move (.glance worker complete)).room = c.room.enter worker := by
      rw [Crew.move, inRoom, if_pos looks]
      rfl
    apply sound.enter looks.1 entered
    intro other
    refine (duty?_modify _ _ _ _ _).trans ?_
    split
    next same =>
      rw [← same, known, Option.map_some, if_pos duty, looks.2]
      rfl
    next => rfl
  · have room : (c.move (.glance worker complete)).room = c.room := by
      rw [Crew.move, inRoom, if_neg looks]
      rfl
    apply sound.of_turnsAway (by rw [room]) (by rw [room])
    refine turnsAway_modify (fun w known => turnsAway_glance fun both => looks ⟨?_, both.2⟩) _
    rw [duty?, known, Option.map_some, both.1]

theorem Sound.look (sound : c.Sound) (worker : Nat) : (c.move (.room (.look worker))).Sound := by
  have room : (c.move (.room (.look worker))).room = c.room.look worker := rfl
  have idle : c.room.taken? (.look worker) = none → ∀ other,
      TurnsAway (c.duty? other) ((c.move (.room (.look worker))).duty? other) := by
    intro taken
    refine turnsAway_modify (fun w _ => ?_) _
    rw [taken]
    exact Or.inl rfl
  by_cases here : worker ∈ c.room.looking
  · rcases WaitRoom.look_effect here with ⟨taken, present, served⟩ | ⟨order, taken, present, served⟩
    · exact sound.of_turnsAway present (by rw [room, WaitRoom.told, served]; rfl) (idle taken)
    · have waits : c.duty? worker = some .await :=
        (sound.mem_present worker).1 (by simp [WaitRoom.present, here])
      obtain ⟨w, known, -⟩ := Option.map_eq_some_iff.1 waits
      apply sound.order (w.ordered order).duty present served
      · cases order <;> nofun
      · cases order with
        | stop => exact fun _ => rfl
        | connect peer => nofun
      · intro other
        refine (duty?_modify _ _ _ _ _).trans ?_
        rw [taken]
        split
        next same => rw [← same, known]; rfl
        next => rfl
  · have same : c.room.look worker = c.room := WaitRoom.look_of_notMem here
    exact sound.of_turnsAway (by rw [room, same]) (by rw [room, same]) (idle (if_neg here))

theorem room_move_of_guarded {m : WaitRoom.Move}
    (guarded : m = .take ∨ ∃ worker, m = .enter worker) : (c.move (.room m)).room = c.room := by
  rcases guarded with rfl | ⟨worker, rfl⟩ <;> rfl

theorem room_move {m : WaitRoom.Move} (allowed : ¬(m = .take ∨ ∃ worker, m = .enter worker)) :
    (c.move (.room m)).room = c.room.move m := by
  cases m with
  | take => exact absurd (Or.inl rfl) allowed
  | enter worker => exact absurd (Or.inr ⟨worker, rfl⟩) allowed
  | _ => rfl

theorem Sound.room (sound : c.Sound) {m : WaitRoom.Move} (looks : ∀ worker, m ≠ .look worker) :
    (c.move (.room m)).Sound := by
  have workers : (c.move (.room m)).workers = c.workers := by
    cases m with
    | look worker => exact absurd rfl (looks worker)
    | _ => rfl
  have stays : ∀ worker, TurnsAway (c.duty? worker) ((c.move (.room m)).duty? worker) := by
    intro worker
    rw [duty?, duty?, workers]
    exact Or.inl rfl
  by_cases guarded : m = .take ∨ ∃ worker, m = .enter worker
  · have same := room_move_of_guarded (c := c) guarded
    exact sound.of_turnsAway (by rw [same]) (by rw [same]) stays
  · have room := room_move (c := c) guarded
    obtain ⟨takes, enters⟩ := not_or.1 guarded
    obtain ⟨present, served⟩ :=
      WaitRoom.idle_effect (r := c.room) (not_exists.1 enters) looks takes
    apply sound.of_turnsAway (by rw [room]; exact present) ?_ stays
    rw [room, WaitRoom.told, served]
    rfl

theorem Sound.move (sound : c.Sound) (m : Move) : (c.move m).Sound := by
  cases m with
  | room m =>
    by_cases looks : ∃ worker, m = .look worker
    · obtain ⟨worker, rfl⟩ := looks
      exact sound.look worker
    · exact sound.room (not_exists.1 looks)
  | glance worker complete => exact sound.glance worker complete
  | dial worker connected =>
    exact sound.of_turnsAway (List.Perm.refl _) rfl
      (turnsAway_modify (fun w _ => turnsAway_dial w connected) _)
  | serve worker result =>
    exact sound.of_turnsAway (List.Perm.refl _) rfl
      (turnsAway_modify (fun w _ => turnsAway_serve w result) _)

theorem Sound.after (sound : c.Sound) (moves : List Move) : (c.after moves).Sound := by
  induction moves generalizing c with
  | nil => exact sound
  | cons m moves ih => exact ih (sound.move m)

/-! ### The calls to stop -/

theorem length_workers_move (c : Crew) (m : Move) :
    (c.move m).workers.length = c.workers.length := by
  cases m with
  | room m => cases m <;> simp [move, work]
  | _ => simp [move, work]

/-- In a crew only workers that have waited take calls to stop, so the calls that were taken, one by
each worker that was told, and those that still stand are all there were. -/
theorem length_told_move (c : Crew) (m : Move) :
    (c.move m).room.told.length + (c.move m).room.queue.orders.count .stop =
      c.room.told.length + c.room.queue.orders.count .stop + if m.isStop then 1 else 0 := by
  have inside : ∀ m : WaitRoom.Move, m ≠ .take →
      (c.room.move m).told.length + (c.room.move m).queue.orders.count .stop =
        c.room.told.length + c.room.queue.orders.count .stop + if m.isStop then 1 else 0 := by
    intro m takes
    have standing := congrArg (List.count .stop) (c.room.taken?_append_orders m)
    rw [List.count_append, WaitRoom.count_stop_standing] at standing
    rw [WaitRoom.length_told_move takes]
    omega
  cases m with
  | room m =>
    by_cases guarded : m = .take ∨ ∃ worker, m = .enter worker
    · rw [room_move_of_guarded guarded]
      rcases guarded with rfl | ⟨worker, rfl⟩ <;> rfl
    · rw [room_move guarded]
      exact inside m (not_or.1 guarded).1
  | glance worker complete =>
    simp only [move, inRoom]
    split
    next => exact inside (.enter worker) nofun
    next => rfl
  | dial worker connected => rfl
  | serve worker result => rfl

theorem length_told_after (c : Crew) (moves : List Move) :
    (c.after moves).room.told.length + (c.after moves).room.queue.orders.count .stop =
      c.room.told.length + c.room.queue.orders.count .stop + moves.countP Move.isStop := by
  induction moves generalizing c with
  | nil => rfl
  | cons m moves ih =>
    have first := c.length_told_move m
    have later := ih (c.move m)
    simp only [after, List.foldl_cons] at later ⊢
    rw [later, first, List.countP_cons]
    omega

theorem length_workers_after (c : Crew) (moves : List Move) :
    (c.after moves).workers.length = c.workers.length := by
  induction moves generalizing c with
  | nil => rfl
  | cons m moves ih => exact (ih (c.move m)).trans (c.length_workers_move m)

theorem Sound.lt_of_mem_told (sound : c.Sound) {worker : Nat} (member : worker ∈ c.room.told) :
    worker < c.workers.length := by
  obtain ⟨w, known, -⟩ := Option.map_eq_some_iff.1 (sound.done_of_told worker member)
  exact (List.getElem?_eq_some_iff.1 known).1

theorem Sound.length_told_add (sound : c.Sound) : c.room.told.length +
    ((List.range c.workers.length).filter (· ∉ c.room.told)).length = c.workers.length := by
  have listed : ((List.range c.workers.length).filter (· ∈ c.room.told)).Perm c.room.told := by
    apply (List.perm_ext_iff_of_nodup (List.nodup_range.filter _) sound.told_nodup).2
    intro worker
    rw [List.mem_filter, List.mem_range, decide_eq_true_eq]
    exact and_iff_right_of_imp sound.lt_of_mem_told
  have all := List.length_eq_length_filter_add (l := List.range c.workers.length)
    (fun worker => decide (worker ∈ c.room.told))
  rw [List.length_range, listed.length_eq] at all
  simp only [decide_not]
  exact all.symm

end Crew

namespace WaitRoom

/-- Whatever is done in a waiting room in whatever order: what was taken out of the queue and what
still stands in it is, in this order, part of what stood there and what was put in; a move takes
what stands first, and a refill takes away the peers that wait and nothing else and puts the new
ones behind; and the calls to stop that were taken and those that still stand are all there were.
Whatever a crew of workers does, whoever was told to stop was told once, is done and waits no more;
as many calls were taken as workers were told; and if there were at least as many calls as workers,
there is still one for each worker that was not told. -/
theorem no_stop_lost (r : WaitRoom) (moves : List Move) (workers : Nat) (made : List Crew.Move) :
    let crew := (Crew.ofSize workers).after made
    let called := made.countP Crew.Move.isStop
    (r.delivered moves ++ (r.after moves).queue.orders).Sublist
      (r.queue.orders ++ moves.flatMap put) ∧
    (∀ m, (r.taken? m).toList ++ (r.move m).queue.orders = match m with
      | .add order => r.queue.orders ++ [order]
      | .refill peers => r.queue.orders.filter Order.isStop ++ peers.map .connect
      | _ => r.queue.orders) ∧
    (r.delivered moves).count .stop + (r.after moves).queue.orders.count .stop =
      r.queue.orders.count .stop + moves.countP Move.isStop ∧
    crew.room.told.Nodup ∧
    (∀ worker ∈ crew.room.told, worker < workers ∧ crew.duty? worker = some .done ∧
      worker ∉ crew.room.present) ∧
    crew.room.told.length + crew.room.queue.orders.count .stop = called ∧
    (workers ≤ called → ((List.range workers).filter (· ∉ crew.room.told)).length ≤
      crew.room.queue.orders.count .stop) := by
  intro crew called
  have sound : crew.Sound := (Crew.sound_ofSize workers).after made
  have size : crew.workers.length = workers :=
    (Crew.length_workers_after _ made).trans List.length_replicate
  have conserved : crew.room.told.length + crew.room.queue.orders.count .stop = called :=
    (Crew.length_told_after _ made).trans (Nat.zero_add _)
  have everyone := sound.length_told_add
  rw [size] at everyone
  refine ⟨r.sublist_delivered moves, fun m => ?_, r.count_stop_delivered moves, sound.told_nodup,
    fun worker member => ?_, conserved, fun enough => by omega⟩
  · rw [taken?_append_orders]
    cases m <;> rfl
  · have done := sound.done_of_told worker member
    refine ⟨size ▸ sound.lt_of_mem_told member, done, fun waits => ?_⟩
    rw [(sound.mem_present worker).1 waits] at done
    cases done

example : let crew := (Crew.ofSize 2).after [.glance 0 false, .room (.add .stop),
      .room (.add .stop), .room (.look 0), .room (.refill []), .glance 0 false, .room (.look 0)]
    crew.room.told = [0] ∧ crew.room.queue.orders = [.stop] := by decide

end WaitRoom

end Swarm
