import Swarm.Proofs.Peer.Leaving
import Swarm.Proofs.Scenario.Opening

/-!
A session with a peer that says what it likes comes to an end. Between two messages it has a limited
number of things to do, as only so many requests may be out (`Session.weight`), and each message
takes octets off what the peer says (`Connection.Quiet.message`). Writes may fail at any point.

How a session ends is a course of what happened to it, so it leaves nothing behind
(`nothing_left_behind`).
-/

namespace Swarm

def Dialogue.weight (pipeline inFlight : Nat) : Dialogue → Nat
  | awaitBitfield => 1
  | awaitMessage => 2
  | checkComplete => 3
  | fill => 4 + 2 * (pipeline - inFlight)
  | sendRequest _ => 5 + 2 * (pipeline - (inFlight + 1))
  | sendInterested | addPiece _ | deliver .. => 5 + 2 * pipeline
  | register _ => 6 + 2 * pipeline

namespace Session

variable {s s' : Session} {t t' : Transfer} {remote : PeerId} {d : Dialogue} {octets : Bytes}

/-- A bound on what a session does until it reads again, if it does. -/
def weight (s : Session) : Nat :=
  match s.stage with
  | .idle | .ended .. => 0
  | .leave .. | .awaitHandshake => 1
  | .sendHandshake => 2
  | .dialogue _ d => d.weight s.pipeline s.inFlight

theorem weight_of_dialogue (stage : s.stage = .dialogue remote d) :
    s.weight = d.weight s.pipeline s.inFlight := by
  rw [weight, stage]

theorem weight_go (s : Session) (remote : PeerId) (d : Dialogue) :
    (s.go remote d).weight = d.weight s.pipeline s.inFlight := rfl

theorem weight_le (s : Session) : s.weight ≤ 6 + 2 * s.pipeline := by
  cases stage : s.stage with
  | dialogue remote d =>
    rw [weight_of_dialogue stage]
    cases d <;> simp only [Dialogue.weight] <;> omega
  | _ =>
    rw [weight, stage]
    dsimp only
    omega

theorem Step.pipeline {passed : List Traffic} (step : Step s t passed s' t') :
    s'.pipeline = s.pipeline := by
  cases step <;> rfl

theorem weight_finish_le (s : Session) (remote : PeerId) (result : Except SessionError Unit) :
    (s.finish remote result).weight ≤ 1 := by
  unfold finish
  split
  next => exact Nat.le_refl 1
  next => exact Nat.zero_le 1

theorem weight_proceed_lt {α : Type} (outcome : Except TransferError α)
    (more : 4 + 2 * s.pipeline < s.weight) : (s.proceed remote outcome).weight < s.weight := by
  cases outcome with
  | error e =>
    have small := s.weight_finish_le remote (.error (.transfer e))
    exact Nat.lt_of_le_of_lt small (by omega)
  | ok a =>
    have light : (s.proceed remote (.ok a)).weight = 4 + 2 * (s.pipeline - s.inFlight) := rfl
    omega

theorem weight_sent_lt (want : s.want = .send octets) (failure : Option SystemError) :
    (s.sent failure).weight < s.weight := by
  have quits := s.weight_finish_le
  cases stage : s.stage with
  | sendHandshake => cases failure <;> simp [sent, stage, weight, giveUp]
  | dialogue remote d =>
    have heavy := weight_of_dialogue stage
    cases d with
    | sendInterested =>
      rw [Dialogue.weight] at heavy
      cases failure with
      | none =>
        simp only [sent, stage, weight_go, Dialogue.weight]
        omega
      | some e =>
        simp only [sent, stage]
        exact Nat.lt_of_le_of_lt (quits _ _) (by omega)
    | sendRequest r =>
      rw [Dialogue.weight] at heavy
      cases failure with
      | none =>
        have light : (s.sent none).weight = 4 + 2 * (s.pipeline - (s.inFlight + 1)) := by
          simp only [sent, stage]
          rfl
        omega
      | some e =>
        simp only [sent, stage]
        exact Nat.lt_of_le_of_lt (quits _ _) (by omega)
    | _ =>
      rw [Session.want, stage] at want
      cases want
  | _ =>
    rw [Session.want, stage] at want
    cases want

theorem weight_turn_lt (want : s.want = .transfer) (t : Transfer) (now : Nat)
    (disk : Storage.DiskOutcome) : (s.turn t now disk).1.weight < s.weight := by
  have quits := s.weight_finish_le
  cases stage : s.stage with
  | dialogue remote d =>
    have heavy := weight_of_dialogue stage
    cases d with
    | register bits =>
      rw [Dialogue.weight] at heavy
      simp only [turn, stage]
      split
      next =>
        rw [weight_go, Dialogue.weight]
        omega
      next => exact Nat.lt_of_le_of_lt (quits _ _) (by omega)
    | checkComplete =>
      rw [Dialogue.weight] at heavy
      simp only [turn, stage]
      split
      next => exact Nat.lt_of_le_of_lt (quits _ _) (by omega)
      next =>
        rw [weight_go, Dialogue.weight]
        omega
    | addPiece i =>
      rw [Dialogue.weight] at heavy
      simp only [turn, stage]
      exact weight_proceed_lt _ (by omega)
    | deliver i offset block =>
      rw [Dialogue.weight] at heavy
      simp only [turn, stage]
      exact weight_proceed_lt _ (by omega)
    | fill =>
      rw [Dialogue.weight] at heavy
      simp only [turn, stage]
      split
      next free =>
        -- A request is sent only where there is room for one, so there is less room after it.
        have room : s.inFlight < s.pipeline := by
          rw [mayRequest, Bool.and_eq_true, decide_eq_true_eq] at free
          exact free.2
        split
        next => exact Nat.lt_of_le_of_lt (quits _ _) (by omega)
        next =>
          rw [weight_go, Dialogue.weight]
          omega
        next =>
          rw [weight_go, Dialogue.weight]
          omega
      next =>
        rw [weight_go, Dialogue.weight]
        omega
    | _ =>
      rw [Session.want, stage] at want
      cases want
  | leave remote result => simp [turn, stage, weight]
  | _ =>
    rw [Session.want, stage] at want
    cases want

theorem verdict?_greeted_fault (want : s.want = .handshake) (fault : HandshakeFault) :
    (s.greeted (.error fault)).verdict?.isSome = true := by
  cases stage : s.stage with
  | awaitHandshake => cases fault <;> simp [greeted, stage, giveUp, verdict?]
  | dialogue remote d =>
    rw [Session.want, stage] at want
    cases d <;> cases want
  | _ =>
    rw [Session.want, stage] at want
    cases want

theorem verdict?_received_fault (want : s.want = .message) (fault : MessageFault) :
    (s.received (.error fault)).verdict?.isSome = true := by
  have decided (remote : PeerId) (result : Except SessionError Unit) :
      (s.finish remote result).verdict?.isSome = true := by
    unfold finish
    split <;> rfl
  cases stage : s.stage with
  | dialogue remote d =>
    cases d with
    | awaitBitfield | awaitMessage =>
      simp only [received, stage]
      exact decided _ _
    | _ =>
      rw [Session.want, stage] at want
      cases want
  | _ =>
    rw [Session.want, stage] at want
    cases want

theorem rank_eq_zero_of_nothing (want : s.want = .nothing) (going : s.verdict? = none) :
    s.state.rank = 0 := by
  cases stage : s.stage with
  | idle => rw [state, stage]; rfl
  | ended =>
    rw [verdict?, stage] at going
    cases going
  | dialogue remote d =>
    rw [Session.want, stage] at want
    cases d <;> cases want
  | _ =>
    rw [Session.want, stage] at want
    cases want

end Session

namespace Scenario

structure Remote.Quiet (r : Remote) (b : Bytes) : Prop where
  silent : r.seeder = none
  ahead : ∃ chunks : List Bytes, r.inbox = chunks.map .octets ∧ chunks.flatten = b

namespace Remote

variable {r r' : Remote} {t t' : Transfer} {b rest : Bytes}

theorem Quiet.holds (quiet : r.Quiet b) (t : Transfer) : r.Holds t (r, t) b := by
  obtain ⟨-, chunks, inbox, stream⟩ := quiet
  exact ⟨rfl, chunks, r.readCount, by rw [← inbox], stream⟩

theorem Holds.quiet (silent : r.seeder = none) (holds : r.Holds t (r', t') b) :
    t' = t ∧ r'.Quiet b := by
  obtain ⟨known, chunks, count, same, stream⟩ := holds
  dsimp only at known same
  subst same
  exact ⟨known, silent, chunks, rfl, stream⟩

theorem Quiet.write (quiet : r.Quiet b) (octets : Bytes) : (r.write octets).2.Quiet b := by
  unfold Remote.write
  split
  next => exact quiet
  next =>
    simp only [quiet.silent]
    exact ⟨rfl, quiet.ahead⟩

theorem Quiet.handshake (quiet : r.Quiet b) (t : Transfer) : ∃ reply r' rest,
    Reader.handshake Remote.read (r, t) = (reply, r', t) ∧ r'.Quiet rest ∧
      ∀ h, reply = .ok h → rest.length < b.length := by
  rcases (r.serves t).handshake_cases (quiet.holds t) with
    ⟨h, rest, ⟨r', t'⟩, whole, came, left⟩ | ⟨e, ⟨r', t'⟩, rest, came, left, -⟩
  · obtain ⟨rfl, later⟩ := Holds.quiet quiet.silent left
    refine ⟨_, r', rest, came, later, fun _ _ => ?_⟩
    rw [whole, List.length_append, h.length_encode, Handshake.size]
    omega
  · obtain ⟨rfl, later⟩ := Holds.quiet quiet.silent left
    refine ⟨_, r', rest, came, later, ?_⟩
    intro _ wrong
    cases wrong

theorem Quiet.message (quiet : r.Quiet b) (t : Transfer) : ∃ reply r' rest,
    Reader.message Remote.read (r, t) = (reply, r', t) ∧ r'.Quiet rest ∧
      ∀ m, reply = .ok m → rest.length < b.length := by
  rcases (r.serves t).message_cases (quiet.holds t) with
    ⟨body, rest, ⟨r', t'⟩, whole, -, came, left⟩ | ⟨e, ⟨r', t'⟩, rest, came, left, -⟩
  · obtain ⟨rfl, later⟩ := Holds.quiet quiet.silent left
    refine ⟨_, r', rest, came, later, fun _ _ => ?_⟩
    rw [whole, List.length_append, BigEndian.length_encode32, List.length_append]
    omega
  · obtain ⟨rfl, later⟩ := Holds.quiet quiet.silent left
    refine ⟨_, r', rest, came, later, ?_⟩
    intro _ wrong
    cases wrong

end Remote

namespace Connection

variable {c : Connection} {t : Transfer} {b : Bytes}

/-- A bound on the steps to the end of a session that has begun, with `b` left to be read. -/
def effort (s : Session) (b : Bytes) : Nat := b.length * (7 + 2 * s.pipeline) + s.weight

theorem effort_lt_of_read {s s' : Session} {rest : Bytes} (read : rest.length < b.length)
    (same : s'.pipeline = s.pipeline) : effort s' rest < effort s b := by
  have light := s'.weight_le
  have fewer := Nat.mul_le_mul_right (7 + 2 * s.pipeline) (Nat.succ_le_of_lt read)
  rw [Nat.succ_mul] at fewer
  rw [effort, effort, same]
  rw [same] at light
  omega

/-- What the connection does with the one thing that the session waits for is a step of the session,
after which it is over, but for its registration, or closer to its end. -/
theorem exists_happening (quiet : c.remote.Quiet b) (begun : 0 < c.session.state.rank)
    (going : c.session.verdict? = none) (now : Nat) (t : Transfer) : ∃ h rest,
    let next := c.step now t
    (next.1.session, next.2) = c.session.step t h ∧ next.1.remote.Quiet rest ∧
      (next.1.session.verdict?.isSome = true ∨
        effort next.1.session rest < effort c.session b) := by
  have pipeline (h : Session.Happening) : (c.session.step t h).1.pipeline = c.session.pipeline :=
    (c.session.step_step t h).pipeline
  have lighter (h : Session.Happening) (light : (c.session.step t h).1.weight < c.session.weight) :
      effort (c.session.step t h).1 b < effort c.session b := by
    rw [effort, effort, pipeline h]
    exact Nat.add_lt_add_left light _
  cases want : c.session.want with
  | nothing => exact absurd (Session.rank_eq_zero_of_nothing want going) (by omega)
  | send octets =>
    rw [step_send want]
    have light := Session.weight_sent_lt want (c.remote.write octets).1
    exact ⟨.sent _, b, rfl, quiet.write octets, Or.inr (lighter (.sent _) light)⟩
  | handshake =>
    obtain ⟨reply, r', rest, came, later, taken⟩ := quiet.handshake t
    rw [step_handshake want came]
    refine ⟨.greeted reply, rest, rfl, later, ?_⟩
    cases reply with
    | ok h => exact Or.inr (effort_lt_of_read (taken h rfl) (pipeline (.greeted (.ok h))))
    | error fault => exact Or.inl (Session.verdict?_greeted_fault want fault)
  | message =>
    obtain ⟨reply, r', rest, came, later, taken⟩ := quiet.message t
    rw [step_message want came]
    refine ⟨.received reply, rest, rfl, later, ?_⟩
    cases reply with
    | ok m => exact Or.inr (effort_lt_of_read (taken m rfl) (pipeline (.received (.ok m))))
    | error fault => exact Or.inl (Session.verdict?_received_fault want fault)
  | transfer =>
    rw [step_turn want]
    have light := Session.weight_turn_lt want t now .smooth
    exact ⟨.turn now .smooth, b, rfl, quiet, Or.inr (lighter (.turn now .smooth) light)⟩

theorem exists_end_of_verdict? (decided : c.session.verdict?.isSome = true) (t : Transfer)
    (clock : Nat → Nat) : ∃ n happenings result,
    let y := after clock (c, t) n
    (y.1.session, y.2) = c.session.course t happenings ∧ y.1.session.result? = some result := by
  cases stage : c.session.stage with
  | ended id result =>
    refine ⟨0, [], result, rfl, ?_⟩
    simp only [after, Session.result?, stage]
  | leave remote result =>
    have want : c.session.want = .transfer := by rw [Session.want, stage]
    refine ⟨1, [.turn (clock 0) .smooth], result, ?_, ?_⟩
    · simp only [after, step_turn want]
      rfl
    · simp only [after, step_turn want, Session.turn, stage]
      rfl
  | _ =>
    rw [Session.verdict?, stage] at decided
    cases decided

/-- A session that has begun with a peer that answers nothing comes to an end, and all that happened
to it until then is a course of it. -/
theorem exists_end (quiet : c.remote.Quiet b) (begun : 0 < c.session.state.rank) (t : Transfer)
    (clock : Nat → Nat) : ∃ n happenings result,
    let y := after clock (c, t) n
    (y.1.session, y.2) = c.session.course t happenings ∧ y.1.session.result? = some result := by
  -- By induction on the effort that is left: every step is closer to the end, or makes it certain.
  induction measure : effort c.session b using Nat.strong_induction_on
    generalizing c t b clock with
  | h bound ih =>
    cases going : c.session.verdict? with
    | some result => exact exists_end_of_verdict? (by rw [going]; rfl) t clock
    | none =>
      obtain ⟨h, rest, same, later, closer⟩ := exists_happening quiet begun going (clock 0) t
      have next : ∃ n happenings result,
          let y := after (fun k => clock (k + 1)) (c.step (clock 0) t) n
          (y.1.session, y.2) =
            (c.step (clock 0) t).1.session.course (c.step (clock 0) t).2 happenings ∧
          y.1.session.result? = some result := by
        rcases closer with decided | less
        · exact exists_end_of_verdict? decided _ _
        · refine ih _ (measure ▸ less) later ?_ _ _ rfl
          have forward := (c.session.step_step t h).rank_le
          rw [← same] at forward
          exact Nat.lt_of_lt_of_le begun forward
      obtain ⟨n, happenings, result, course, ended⟩ := next
      refine ⟨n + 1, h :: happenings, result, ?_, ?_⟩
      · rw [after_succ, course, Session.course_cons, ← same]
      · rw [after_succ]
        exact ended

end Connection

/-- Whatever happens to a session, of whatever settings and beside whatever state of the download,
while no other session acts: its state only goes forward. When it has ended, with whatever result,
it is closed and nothing is registered; if it had registered its peer, the table does not know the
peer's id any more; if it had not, the download is as it was; and what the table tells of others is
as it was in either case. And whatever octets the peer says, however they end, and wherever there is
no room for a write any more, the session does end, in a course of what happened to it. -/
theorem nothing_left_behind (peer : Peer) (infoHash : Digest) (ownId : PeerId) (pipeline : Nat)
    (readTimeout : Duration) (t : Transfer) :
    let s := Session.new peer infoHash ownId pipeline readTimeout
    (∀ earlier later, (s.course t earlier).1.state.rank ≤
      (s.course t (earlier ++ later)).1.state.rank) ∧
    (∀ happenings result, (s.course t happenings).1.result? = some result →
      let x := s.course t happenings
      x.1.state = .closed ∧ x.1.isRegistered = false ∧
      (∀ earlier remote, earlier <+: happenings →
        (s.course t earlier).1.holding? = some remote →
        x.1.remoteId? = some remote ∧ x.2.isRegistered remote = false ∧
          ∀ other, other ≠ remote → x.2.bitfield? other = t.bitfield? other) ∧
      ((∀ earlier, earlier <+: happenings → (s.course t earlier).1.isRegistered = false) →
        x.2 = t)) ∧
    ∀ (chunks : List Bytes) (ending : Ending) (room : Option Nat) (clock : Nat → Nat),
      ∃ n happenings result,
        let y := Connection.after clock
          (⟨s.start, { Remote.saying chunks ending with room := room }⟩, t) n
        (y.1.session, y.2) = s.course t happenings ∧ y.1.session.result? = some result := by
  intro s
  have fresh : s.isRegistered = false := rfl
  refine ⟨?_, fun happenings result ended => Session.course_ended fresh t happenings ended, ?_⟩
  · intro earlier later
    rw [Session.course_append]
    exact Session.rank_le_course _ _ later
  · intro chunks ending room clock
    have quiet : ({ Remote.saying chunks ending with room := room } : Remote).Quiet
        chunks.flatten := ⟨rfl, chunks, rfl, rfl⟩
    have begun : 0 < s.start.state.rank := Nat.zero_lt_one
    obtain ⟨n, happenings, result, course, ended⟩ :=
      Connection.exists_end (c := ⟨s.start, _⟩) quiet begun t clock
    exact ⟨n, .begins :: happenings, result, course, ended⟩

end Scenario

end Swarm
