import Mathlib.Data.List.Basic
import Swarm.Peer.WaitRoom

/-!
No order lies in the queue while those who could take it sleep. Notices are few: at most one is
kept, so several orders may be added for one notice, and a worker may find nothing, and settle down
only after more orders have come. What carries the argument is that whoever takes an order and
leaves others gives a notice in turn (`Attended.move`), so between any two moves someone is about to
look (`no_order_unattended`). Left to themselves the workers come to rest after a number of moves
that depends on the number of workers alone, however many orders there are (`advance?_rest`).
-/

namespace Swarm.WaitRoom

inductive Move where
  /-- An order is put at the end of the queue, and a notice is owed for it. -/
  | add (order : Order)
  | payNotice
  | refill (peers : List Peer)
  | take
  | enter (worker : Nat)
  | look (worker : Nat)
  | settle (worker : Nat)
  /-- The sleepers change places. A notice wakes the first of them, so it may wake any. -/
  | reorder (sleepers : List Nat)

def move (r : WaitRoom) : Move → WaitRoom
  | .add order => r.add order
  | .payNotice => r.payNotice
  | .refill peers => r.refill peers
  | .take => r.take.2
  | .enter worker => r.enter worker
  | .look worker => r.look worker
  | .settle worker => r.settle worker
  | .reorder sleepers => if sleepers.Perm r.asleep then { r with asleep := sleepers } else r

def after (r : WaitRoom) (moves : List Move) : WaitRoom := moves.foldl move r

def empty : WaitRoom := ⟨.empty, false, [], [], [], [], 0⟩

/-- Where there are orders, a notice is kept, a worker is about to look, or a notice is owed. And a
notice is kept only while nobody sleeps, so it is not kept from anyone. -/
structure Attended (r : WaitRoom) : Prop where
  awake : r.queue.isEmpty = false → r.notice = true ∨ r.looking ≠ [] ∨ 0 < r.owed
  kept : r.notice = true → r.asleep = []

variable {r : WaitRoom} {worker : Nat}

/-! ### What a move does -/

theorem notify_cases (r : WaitRoom) : (r.asleep = [] ∧ r.notify = { r with notice := true }) ∨
    ∃ first rest, r.asleep = first :: rest ∧
      r.notify = { r with asleep := rest, looking := r.looking ++ [first] } := by
  unfold notify
  cases sleepers : r.asleep with
  | nil => exact Or.inl ⟨rfl, rfl⟩
  | cons first rest => exact Or.inr ⟨first, rest, rfl, rfl⟩

theorem notifyIfAny_cases (r : WaitRoom) :
    (r.queue.isEmpty = true ∧ r.notifyIfAny = r) ∨ r.notifyIfAny = r.notify := by
  unfold notifyIfAny
  split
  next none_there => exact Or.inl ⟨none_there, rfl⟩
  next => exact Or.inr rfl

theorem take_cases (r : WaitRoom) : (r.queue.isEmpty = true ∧ r.take = (none, r)) ∨
    ∃ order rest, r.queue = ⟨order :: rest⟩ ∧
      r.take = (some order, ({ r with queue := ⟨rest⟩ }).notifyIfAny) := by
  unfold take Queue.pop?
  cases queue : r.queue with
  | mk orders =>
    cases orders with
    | nil => exact Or.inl ⟨rfl, rfl⟩
    | cons order rest => exact Or.inr ⟨order, rest, rfl, rfl⟩

theorem look_cases (here : worker ∈ r.looking) :
    let left := { r with looking := r.looking.erase worker }
    (r.queue.isEmpty = true ∧ r.look worker = { left with settling := r.settling ++ [worker] }) ∨
      ∃ order rest, r.queue = ⟨order :: rest⟩ ∧ r.look worker =
        { ({ left with queue := ⟨rest⟩ }).notifyIfAny with
          served := (worker, order) :: ({ left with queue := ⟨rest⟩ }).notifyIfAny.served } := by
  intro left
  unfold look
  rw [if_pos (List.contains_iff_mem.2 here)]
  rcases left.take_cases with ⟨none_there, taken⟩ | ⟨order, rest, queue, taken⟩
  · exact Or.inl ⟨none_there, by simp only [left] at taken ⊢; rw [taken]⟩
  · exact Or.inr ⟨order, rest, queue, by simp only [left] at taken ⊢; rw [taken]⟩

theorem look_of_notMem (away : worker ∉ r.looking) : r.look worker = r := by
  unfold look
  rw [if_neg (mt List.contains_iff_mem.1 away)]

theorem settle_cases (here : worker ∈ r.settling) :
    let left := { r with settling := r.settling.erase worker }
    (r.notice = true ∧
      r.settle worker = { left with notice := false, looking := r.looking ++ [worker] }) ∨
    (r.notice = false ∧ r.settle worker = { left with asleep := r.asleep ++ [worker] }) := by
  intro left
  unfold settle
  rw [if_pos (List.contains_iff_mem.2 here)]
  dsimp only
  cases kept : r.notice with
  | true => exact Or.inl ⟨rfl, if_pos rfl⟩
  | false => exact Or.inr ⟨rfl, if_neg Bool.false_ne_true⟩

theorem settle_of_notMem (away : worker ∉ r.settling) : r.settle worker = r := by
  unfold settle
  rw [if_neg (mt List.contains_iff_mem.1 away)]

/-! ### Every order is attended to -/

theorem attended_of_isEmpty (none_there : r.queue.isEmpty = true)
    (kept : r.notice = true → r.asleep = []) : r.Attended :=
  ⟨fun some_there => absurd none_there (Bool.eq_false_iff.1 some_there), kept⟩

/-- After a notice someone is about to look, or the notice is kept because nobody sleeps. -/
theorem attended_notify (kept : r.notice = true → r.asleep = []) : r.notify.Attended := by
  rcases r.notify_cases with ⟨nobody, same⟩ | ⟨first, rest, sleepers, same⟩
  · rw [same]
    exact ⟨fun _ => Or.inl rfl, fun _ => nobody⟩
  · rw [same]
    refine ⟨fun _ => Or.inr (Or.inl (by simp)), fun notice => ?_⟩
    rw [kept notice] at sleepers
    cases sleepers

theorem attended_notifyIfAny (kept : r.notice = true → r.asleep = []) :
    r.notifyIfAny.Attended := by
  rcases r.notifyIfAny_cases with ⟨none_there, same⟩ | same
  · rw [same]
    exact attended_of_isEmpty none_there kept
  · rw [same]
    exact attended_notify kept

theorem Attended.payNotice (attended : r.Attended) : r.payNotice.Attended := by
  unfold WaitRoom.payNotice
  split
  next => exact attended
  next => exact attended_notify attended.kept

theorem Attended.take (attended : r.Attended) : r.take.2.Attended := by
  rcases r.take_cases with ⟨-, taken⟩ | ⟨order, rest, -, taken⟩
  · rw [taken]
    exact attended
  · rw [taken]
    exact attended_notifyIfAny attended.kept

theorem Attended.look (attended : r.Attended) (worker : Nat) : (r.look worker).Attended := by
  by_cases here : worker ∈ r.looking
  · rcases look_cases here with ⟨none_there, same⟩ | ⟨order, rest, -, same⟩
    · rw [same]
      exact attended_of_isEmpty none_there attended.kept
    · have told := attended_notifyIfAny
        (r := { r with looking := r.looking.erase worker, queue := ⟨rest⟩ }) attended.kept
      rw [same]
      exact ⟨told.awake, told.kept⟩
  · rw [look_of_notMem here]
    exact attended

theorem Attended.settle (attended : r.Attended) (worker : Nat) : (r.settle worker).Attended := by
  by_cases here : worker ∈ r.settling
  · rcases settle_cases here with ⟨-, same⟩ | ⟨unkept, same⟩
    · rw [same]
      exact ⟨fun _ => Or.inr (Or.inl (by simp)), nofun⟩
    · rw [same]
      refine ⟨attended.awake, fun notice => ?_⟩
      rw [unkept] at notice
      cases notice
  · rw [settle_of_notMem here]
    exact attended

theorem Attended.move (attended : r.Attended) (m : Move) : (r.move m).Attended := by
  cases m with
  | add order => exact ⟨fun _ => Or.inr (Or.inr (Nat.succ_pos _)), attended.kept⟩
  | payNotice => exact attended.payNotice
  | refill peers => exact attended_notifyIfAny attended.kept
  | take => exact attended.take
  | enter worker => exact ⟨fun _ => Or.inr (Or.inl (by simp [WaitRoom.move, enter])), attended.kept⟩
  | look worker => exact attended.look worker
  | settle worker => exact attended.settle worker
  | reorder sleepers =>
    unfold WaitRoom.move
    dsimp only
    split
    next same =>
      refine ⟨attended.awake, fun notice => ?_⟩
      rw [attended.kept notice] at same
      exact same.eq_nil
    next => exact attended

theorem Attended.after (attended : r.Attended) (moves : List Move) : (r.after moves).Attended := by
  induction moves generalizing r with
  | nil => exact attended
  | cons m moves ih => exact ih (attended.move m)

theorem attended_empty : empty.Attended := ⟨nofun, fun _ => rfl⟩

/-! ### The workers come to rest -/

def waiting (r : WaitRoom) : Nat := r.looking.length + r.settling.length + r.asleep.length

/-- What the moves of workers use up. A notice is worth less than the worker that looks for an
order, so it may give one and still have used up something. -/
def effort (r : WaitRoom) : Nat :=
  4 * r.looking.length + 2 * r.settling.length + r.asleep.length + if r.notice then 3 else 0

theorem effort_notify_le (r : WaitRoom) : r.notify.effort ≤ r.effort + 3 := by
  rcases r.notify_cases with ⟨-, same⟩ | ⟨first, rest, sleepers, same⟩
  · rw [same]
    simp only [effort, if_true]
    omega
  · rw [same]
    simp only [effort, sleepers, List.length_append, List.length_cons, List.length_nil]
    omega

theorem effort_notifyIfAny_le (r : WaitRoom) : r.notifyIfAny.effort ≤ r.effort + 3 := by
  rcases r.notifyIfAny_cases with ⟨-, same⟩ | same
  · rw [same]
    exact Nat.le_add_right _ _
  · rw [same]
    exact r.effort_notify_le

theorem effort_look_lt (here : worker ∈ r.looking) : (r.look worker).effort < r.effort := by
  have fewer := List.length_erase_of_mem here
  have some_here := List.length_pos_of_mem here
  rcases look_cases here with ⟨-, same⟩ | ⟨order, rest, -, same⟩
  · rw [same]
    simp only [effort, fewer, List.length_append, List.length_singleton]
    omega
  · have told := effort_notifyIfAny_le { r with looking := r.looking.erase worker, queue := ⟨rest⟩ }
    rw [same]
    simp only [effort, fewer] at told ⊢
    omega

theorem effort_settle_lt (here : worker ∈ r.settling) : (r.settle worker).effort < r.effort := by
  have fewer := List.length_erase_of_mem here
  have some_here := List.length_pos_of_mem here
  rcases settle_cases here with ⟨kept, same⟩ | ⟨-, same⟩
  · rw [same]
    simp only [effort, kept, fewer, List.length_append, List.length_singleton, if_true,
      Bool.false_eq_true, if_false]
    omega
  · rw [same]
    simp only [effort, fewer, List.length_append, List.length_singleton]
    omega

theorem advance?_eq_some {next : WaitRoom} (moved : r.advance? = some next) :
    ∃ worker, (worker ∈ r.settling ∧ next = r.settle worker) ∨
      (worker ∈ r.looking ∧ next = r.look worker) := by
  unfold advance? at moved
  split at moved
  next worker _ settling =>
    cases moved
    exact ⟨worker, Or.inl ⟨by simp [settling], rfl⟩⟩
  next worker _ _ looking =>
    cases moved
    exact ⟨worker, Or.inr ⟨by simp [looking], rfl⟩⟩
  next => cases moved

theorem advance?_eq_none_iff : r.advance? = none ↔ r.settling = [] ∧ r.looking = [] := by
  unfold advance?
  split <;> simp_all

theorem rest_induction {P : WaitRoom → Prop} (look : ∀ r worker, P r → P (r.look worker))
    (settle : ∀ r worker, P r → P (r.settle worker)) (budget : Nat) (holds : P r) :
    P (rest budget r) := by
  induction budget generalizing r with
  | zero => exact holds
  | succ budget ih =>
    unfold rest
    split
    next => exact holds
    next next moved =>
      obtain ⟨worker, ⟨-, rfl⟩ | ⟨-, rfl⟩⟩ := advance?_eq_some moved
      · exact ih (settle r worker holds)
      · exact ih (look r worker holds)

theorem advance?_rest_of_effort_le {budget : Nat} (enough : r.effort ≤ budget) :
    (rest budget r).advance? = none := by
  induction budget generalizing r with
  | zero =>
    rw [effort] at enough
    have settling : r.settling = [] := List.eq_nil_of_length_eq_zero (by omega)
    have looking : r.looking = [] := List.eq_nil_of_length_eq_zero (by omega)
    exact advance?_eq_none_iff.2 ⟨settling, looking⟩
  | succ budget ih =>
    unfold rest
    split
    next still => exact still
    next next moved =>
      obtain ⟨worker, ⟨here, rfl⟩ | ⟨here, rfl⟩⟩ := advance?_eq_some moved
      · exact ih (by have less := effort_settle_lt here; omega)
      · exact ih (by have less := effort_look_lt here; omega)

/-- The moves that are allowed to some workers are enough for as many to come to rest. -/
theorem advance?_rest {workers : Nat} (few : r.waiting ≤ workers) :
    (rest (moves workers) r).advance? = none := by
  apply advance?_rest_of_effort_le
  rw [waiting] at few
  unfold effort moves
  split <;> omega

theorem owed_notify (r : WaitRoom) : r.notify.owed = r.owed := by
  rcases r.notify_cases with ⟨-, same⟩ | ⟨_, _, -, same⟩ <;> rw [same]

theorem owed_look (r : WaitRoom) (worker : Nat) : (r.look worker).owed = r.owed := by
  by_cases here : worker ∈ r.looking
  · rcases look_cases here with ⟨-, same⟩ | ⟨order, rest, -, same⟩
    · rw [same]
    · rw [same]
      dsimp only
      rcases notifyIfAny_cases { r with looking := r.looking.erase worker, queue := ⟨rest⟩ } with
        ⟨-, told⟩ | told
      · rw [told]
      · rw [told, owed_notify]
  · rw [look_of_notMem here]

theorem owed_settle (r : WaitRoom) (worker : Nat) : (r.settle worker).owed = r.owed := by
  by_cases here : worker ∈ r.settling
  · rcases settle_cases here with ⟨-, same⟩ | ⟨-, same⟩ <;> rw [same]
  · rw [settle_of_notMem here]

/-- Whatever is done in a waiting room in whatever order, by however many workers, and whichever of
the sleepers a notice wakes: where there are orders, a notice is kept, a worker is about to look, or
the notice for an order that was added is still owed. A kept notice is of no use to those who sleep,
and then nobody does: so where there are orders and sleepers, a worker is about to look or a notice
is owed. If none is owed and the workers are left to themselves, they come to rest, and then either
there are no orders or nobody sleeps. -/
theorem no_order_unattended (made : List Move) :
    let r := empty.after made
    (r.queue.isEmpty = false → r.notice = true ∨ r.looking ≠ [] ∨ 0 < r.owed) ∧
    (r.queue.isEmpty = false → r.asleep ≠ [] → r.looking ≠ [] ∨ 0 < r.owed) ∧
    ∀ workers, r.waiting ≤ workers → r.owed = 0 →
      let rested := rest (moves workers) r
      rested.advance? = none ∧ (rested.queue.isEmpty = true ∨ rested.asleep = []) := by
  intro r
  have attended : r.Attended := attended_empty.after made
  have served : ∀ r : WaitRoom, r.Attended → r.queue.isEmpty = false → r.asleep ≠ [] →
      r.looking ≠ [] ∨ 0 < r.owed := fun r attended some_there sleepers =>
    (attended.awake some_there).resolve_left fun notice => sleepers (attended.kept notice)
  refine ⟨attended.awake, served r attended, fun workers few paid => ?_⟩
  intro rested
  have still : rested.advance? = none := advance?_rest few
  have kept : rested.Attended ∧ rested.owed = 0 :=
    rest_induction (P := fun r => r.Attended ∧ r.owed = 0)
      (fun r worker both => ⟨both.1.look worker, (r.owed_look worker).trans both.2⟩)
      (fun r worker both => ⟨both.1.settle worker, (r.owed_settle worker).trans both.2⟩)
      (moves workers) ⟨attended, paid⟩
  refine ⟨still, ?_⟩
  by_contra neither
  obtain ⟨some_there, sleepers⟩ := not_or.1 neither
  rcases served rested kept.1 (Bool.eq_false_iff.2 some_there) sleepers with looking | owed
  · exact looking (advance?_eq_none_iff.1 still).2
  · exact absurd kept.2 (Nat.pos_iff_ne_zero.1 owed)

end Swarm.WaitRoom
