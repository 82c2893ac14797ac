import Mathlib.Data.List.Infix
import Swarm.Proofs.Wire.Framing
import Swarm.Scenario.Remote

/-!
A session run against the other side of its connection, step by step, each step at the time that a
clock tells. The other side serves the octets it has ready as one stream, in whatever chunks they
come.
-/

namespace Swarm.Scenario

namespace Remote

/-! ### The stream that lies ready -/

theorem gather_octets (chunks : List Bytes) (parts : List Bytes) (wanted : Nat) (t : Transfer) :
    ∃ (parts' rest : List Bytes), gather parts wanted (chunks.map .octets) t =
        ⟨parts', wanted - chunks.flatten.length, rest.map .octets, t⟩ ∧
      parts'.reverse.flatten = parts.reverse.flatten ++ chunks.flatten.take wanted ∧
      rest.flatten = chunks.flatten.drop wanted := by
  -- By induction on the chunks: the first is taken whole, or it is cut and the read is done.
  induction chunks generalizing parts wanted with
  | nil =>
    refine ⟨parts, [], ?_, by simp, by simp⟩
    cases wanted <;> rfl
  | cons chunk later ih =>
    cases wanted with
    | zero => exact ⟨parts, chunk :: later, by simp [gather], by simp, rfl⟩
    | succ n =>
      by_cases short : (chunk.take (n + 1)).length < n + 1
      · have whole : chunk.length < n + 1 := by
          rw [List.length_take] at short
          omega
        rw [List.take_of_length_le (Nat.le_of_lt whole)] at short
        obtain ⟨parts', rest, gathered, read, left⟩ := ih (chunk :: parts) (n + 1 - chunk.length)
        refine ⟨parts', rest, ?_, ?_, ?_⟩
        · simp only [List.map_cons, gather, List.take_of_length_le (Nat.le_of_lt whole),
            if_pos short, gathered, List.flatten_cons, List.length_append, Nat.sub_sub]
        · rw [read, List.reverse_cons, List.flatten_append, List.flatten_singleton,
            List.flatten_cons, List.take_append, List.take_of_length_le (Nat.le_of_lt whole),
            List.append_assoc]
        · rw [left, List.flatten_cons, List.drop_append,
            List.drop_of_length_le (Nat.le_of_lt whole), List.nil_append]
      · have enough : n + 1 ≤ chunk.length := by
          rw [List.length_take] at short
          omega
        have none_left : n + 1 - (chunk :: later).flatten.length = 0 := by
          rw [List.flatten_cons, List.length_append]
          omega
        refine ⟨chunk.take (n + 1) :: parts, chunk.drop (n + 1) :: later, ?_, ?_, ?_⟩
        · rw [none_left]
          simp only [List.map_cons, gather, if_neg short]
        · rw [List.reverse_cons, List.flatten_append, List.flatten_singleton, List.flatten_cons,
            List.take_append_of_le_length enough]
        · rw [List.flatten_cons, List.flatten_cons, List.drop_append_of_le_length enough]

/-- With download `t`, the other side is as `r` but for what it has read so far; `b` is left. -/
def Holds (r : Remote) (t : Transfer) (here : Remote × Transfer) (b : Bytes) : Prop :=
  here.2 = t ∧ ∃ (chunks : List Bytes) (count : Nat),
    here.1 = { r with inbox := chunks.map .octets, readCount := count } ∧ chunks.flatten = b

theorem serves (r : Remote) (t : Transfer) :
    Reader.Serves read (fault r.ending) (r.Holds t) where
  enough := by
    rintro ⟨_, u⟩ head rest ⟨known, chunks, count, same, stream⟩
    dsimp only at known same
    subst known same
    obtain ⟨parts, left, gathered, octets, later⟩ := gather_octets chunks [] head.length u
    have none_left : head.length - chunks.flatten.length = 0 := by
      rw [stream, List.length_append]
      omega
    rw [stream, List.reverse_nil, List.flatten_nil, List.nil_append, List.take_left] at octets
    rw [stream, List.drop_left] at later
    have readings : read head.length
        ({ r with inbox := chunks.map .octets, readCount := count }, u) =
        (.ok head, ({ r with
          inbox := left.map .octets
          readCount := count + head.length }, u)) := by
      simp only [read, gathered, none_left, if_true, octets, Nat.sub_zero]
    exact ⟨_, readings, rfl, left, _, rfl, later⟩
  short := by
    rintro ⟨_, u⟩ b n ⟨known, chunks, count, same, stream⟩ few
    dsimp only at known same
    subst known same
    obtain ⟨parts, left, gathered, -, later⟩ := gather_octets chunks [] n u
    rw [← stream] at few
    rw [List.drop_of_length_le (Nat.le_of_lt few)] at later
    have some_left : n - chunks.flatten.length ≠ 0 := by omega
    have readings : read n ({ r with inbox := chunks.map .octets, readCount := count }, u) =
        (.error (fault r.ending), ({ r with
          inbox := left.map .octets
          readCount := count + (n - (n - chunks.flatten.length)) }, u)) := by
      simp only [read, gathered, if_neg some_left]
    exact ⟨_, readings, rfl, left, _, rfl, later⟩

end Remote

namespace Connection

/-! ### Runs -/

def after (clock : Nat → Nat) (x : Connection × Transfer) : Nat → Connection × Transfer
  | 0 => x
  | n + 1 => (after clock x n).1.step (clock n) (after clock x n).2

theorem after_succ (clock : Nat → Nat) (x : Connection × Transfer) (n : Nat) :
    after clock x (n + 1) = after (fun k => clock (k + 1)) (x.1.step (clock 0) x.2) n := by
  induction n with
  | zero => rfl
  | succ n ih => rw [after, ih]; rfl

theorem step_of_result? {c : Connection} {result : Except SessionError Unit}
    (ended : c.session.result? = some result) (now : Nat) (t : Transfer) :
    c.step now t = (c, t) := by
  have want : c.session.want = .nothing := by
    unfold Session.result? at ended
    split at ended
    next stage => rw [Session.want, stage]
    next => cases ended
  rw [step, want]

theorem after_of_result? {x : Connection × Transfer} {result : Except SessionError Unit}
    (ended : x.1.session.result? = some result) (clock : Nat → Nat) (n : Nat) :
    after clock x n = x := by
  induction n with
  | zero => rfl
  | succ n ih => rw [after, ih, step_of_result? ended]

theorem run_eq_after (now fuel : Nat) (c : Connection) (t : Transfer) :
    run now fuel c t = after (fun _ => now) (c, t) fuel := by
  induction fuel generalizing c t with
  | zero => rfl
  | succ fuel ih =>
    rw [run]
    split
    next ended =>
      obtain ⟨result, ended⟩ := Option.isSome_iff_exists.1 ended
      exact (after_of_result? (x := (c, t)) ended _ _).symm
    next => exact (ih _ _).trans (after_succ (fun _ => now) (c, t) fuel).symm

/-- Whatever the clock tells, the connection comes to a state with `goal`, and until then every
state has `along`. -/
def Leads (along goal : Connection × Transfer → Prop) (x : Connection × Transfer) : Prop :=
  ∀ clock, ∃ n, goal (after clock x n) ∧ ∀ k < n, along (after clock x k)

variable {along goal goal' : Connection × Transfer → Prop} {x : Connection × Transfer}

theorem Leads.here (holds : goal x) : Leads along goal x :=
  fun _ => ⟨0, holds, nofun⟩

theorem Leads.step (first : along x) (later : ∀ now, Leads along goal (x.1.step now x.2)) :
    Leads along goal x := by
  intro clock
  obtain ⟨n, reached, kept⟩ := later (clock 0) (fun k => clock (k + 1))
  refine ⟨n + 1, by rwa [after_succ], ?_⟩
  intro k before
  cases k with
  | zero => exact first
  | succ k =>
    rw [after_succ]
    exact kept k (Nat.lt_of_succ_lt_succ before)

theorem Leads.mono {along' : Connection × Transfer → Prop} (leads : Leads along goal x)
    (weaker : ∀ y, along y → along' y) (reached : ∀ y, goal y → goal' y) :
    Leads along' goal' x := by
  intro clock
  obtain ⟨n, arrived, kept⟩ := leads clock
  exact ⟨n, reached _ arrived, fun k before => weaker _ (kept k before)⟩

theorem after_add (clock : Nat → Nat) (x : Connection × Transfer) (m n : Nat) :
    after clock x (m + n) = after (fun k => clock (m + k)) (after clock x m) n := by
  induction n with
  | zero => rfl
  | succ n ih =>
    rw [← Nat.add_assoc, after, ih]
    rfl

theorem Leads.trans (first : Leads along goal x)
    (later : ∀ y, goal y → Leads along goal' y) : Leads along goal' x := by
  intro clock
  obtain ⟨m, reached, kept⟩ := first clock
  obtain ⟨n, arrived, kept'⟩ := later _ reached (fun k => clock (m + k))
  refine ⟨m + n, by rwa [after_add], ?_⟩
  intro k before
  by_cases early : k < m
  · exact kept k early
  · obtain ⟨j, rfl⟩ := Nat.exists_eq_add_of_le (Nat.le_of_not_lt early)
    rw [after_add]
    exact kept' j (by omega)

theorem Leads.always (leads : Leads along
    (fun y => along y ∧ ∃ result, y.1.session.result? = some result) x) (clock : Nat → Nat)
    (n : Nat) : along (after clock x n) := by
  obtain ⟨m, ⟨holds, result, ended⟩, kept⟩ := leads clock
  by_cases early : n < m
  · exact kept n early
  · obtain ⟨k, rfl⟩ := Nat.exists_eq_add_of_le (Nat.le_of_not_lt early)
    rwa [after_add, after_of_result? ended]

/-! ### Single steps -/

section Steps

variable {c : Connection} {t t' : Transfer} {now : Nat} {remote' : Remote}

theorem step_send {octets : Bytes} (want : c.session.want = .send octets) : c.step now t =
    (⟨c.session.sent (c.remote.write octets).1, (c.remote.write octets).2⟩, t) := by
  rw [Connection.step, want]

theorem step_handshake {reply : Except HandshakeFault Handshake}
    (want : c.session.want = .handshake)
    (came : Reader.handshake Remote.read (c.remote, t) = (reply, remote', t')) :
    c.step now t = (⟨c.session.greeted reply, remote'⟩, t') := by
  rw [Connection.step, want]
  simp only [came]

theorem step_message {reply : Except MessageFault Message} (want : c.session.want = .message)
    (came : Reader.message Remote.read (c.remote, t) = (reply, remote', t')) :
    c.step now t = (⟨c.session.received reply, remote'⟩, t') := by
  rw [Connection.step, want]
  simp only [came]

theorem step_turn (want : c.session.want = .transfer) : c.step now t =
    (⟨(c.session.turn t now .smooth).1, c.remote⟩, (c.session.turn t now .smooth).2) := by
  rw [Connection.step, want]

end Steps

/-! ### What is written -/

def written (c : Connection) : List Bytes := c.remote.log.map Prod.snd

theorem writes_read (n : Nat) (x : Remote × Transfer) :
    (Remote.read n x).2.1.writes = x.1.writes := by
  unfold Remote.read
  dsimp only
  split <;> rfl

theorem writes_handshake (x : Remote × Transfer) :
    (Reader.handshake Remote.read x).2.1.writes = x.1.writes :=
  Reader.handshake_relates (R := fun x y => y.1.writes = x.1.writes) writes_read x

theorem writes_message (x : Remote × Transfer) :
    (Reader.message Remote.read x).2.1.writes = x.1.writes := by
  refine Reader.message_relates (R := fun x y => y.1.writes = x.1.writes) writes_read ?_ x
  intro _ _ _ first second
  exact second.trans first

theorem writes_write (r : Remote) (b : Bytes) :
    (r.write b).2.writes = r.writes ∨ (r.write b).2.writes = (r.readCount, b) :: r.writes := by
  unfold Remote.write
  split
  · exact Or.inl rfl
  · dsimp only
    split <;> exact Or.inr rfl

theorem written_step (c : Connection) (now : Nat) (t : Transfer) :
    c.written <+: (c.step now t).1.written := by
  have kept {d : Connection} (same : d.remote.writes = c.remote.writes) :
      c.written <+: d.written := by
    rw [written, written, Remote.log, Remote.log, same]
  cases want : c.session.want with
  | nothing => rw [Connection.step, want]
  | send octets =>
    rw [step_send want]
    rcases writes_write c.remote octets with same | more
    · exact kept same
    · rw [written, written, Remote.log, Remote.log]
      dsimp only
      rw [more, List.reverse_cons, List.map_append]
      exact List.prefix_append _ _
  | handshake =>
    rw [step_handshake want rfl]
    exact kept (writes_handshake _)
  | message =>
    rw [step_message want rfl]
    exact kept (writes_message _)
  | transfer =>
    rw [step_turn want]
    exact List.prefix_rfl

theorem written_after (clock : Nat → Nat) (x : Connection × Transfer) (m n : Nat) :
    (after clock x m).1.written <+: (after clock x (m + n)).1.written := by
  induction n with
  | zero => exact List.prefix_rfl
  | succ n ih => exact ih.trans (written_step _ _ _)

end Connection

end Swarm.Scenario
