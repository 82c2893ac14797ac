import Swarm.Proofs.Peer.Conversation
import Swarm.Proofs.Transfer.Announcements

/-!
What is left of a session once it has ended, whatever happened to it.

A session touches the download only while its peer is registered (`turn_of_unregistered`), and what
it does then is nothing to other peers (`bitfield?_turn`). The one way out of a registration ends it
in the table too (`Registered.step`). So a session that has ended leaves nothing behind
(`course_ended`), and on its way its state only goes forward (`rank_le_course`).
-/

namespace Swarm

open Storage (DiskOutcome)

namespace Session

variable {s s' : Session} {t t' u : Transfer} {remote : PeerId} {now : Nat} {disk : DiskOutcome}

/-- A session and its download after all that happens to it, while no other session acts. -/
def course (s : Session) (t : Transfer) (happenings : List Happening) : Session × Transfer :=
  happenings.foldl (fun x h => x.1.step x.2 h) (s, t)

theorem course_append (s : Session) (t : Transfer) (earlier later : List Happening) :
    s.course t (earlier ++ later) =
      (s.course t earlier).1.course (s.course t earlier).2 later := by
  rw [course, List.foldl_append]
  rfl

/-! ### The state -/

theorem Step.rank_le {passed : List Traffic} (step : Step s t passed s' t') :
    s.state.rank ≤ s'.state.rank := by
  have most : ∀ state : SessionState, state.rank ≤ 5 := by
    intro state
    cases state <;> decide
  obtain ⟨_, _, _, _, _, _, _, _⟩ := s
  cases step with
  | passes => exact Nat.le_refl _
  | ends | quits | protests | leaves => exact most _
  | begins stage | greets stage | meets stage | waits stage | learns stage | registers stage
  | declares stage | listens stage | alive stage | choked stage | unchoked stage | announced stage
  | brought stage | adds stage | delivers stage | rests stage | asks stage | asked stage =>
    cases stage
    exact Nat.le_of_ble_eq_true rfl

/-- The state of a session only goes forward. -/
theorem rank_le_course (s : Session) (t : Transfer) (happenings : List Happening) :
    s.state.rank ≤ (s.course t happenings).1.state.rank := by
  induction happenings generalizing s t with
  | nil => exact Nat.le_refl _
  | cons h rest ih => exact Nat.le_trans (step_step s t h).rank_le (ih _ _)

/-! ### Turns with the download -/

theorem turn_of_unregistered (unregistered : s.isRegistered = false) :
    ((s.turn t now disk).1.isRegistered = false ∧ (s.turn t now disk).2 = t) ∨
    ∃ remote bits, (s.turn t now disk).1.holding? = some remote ∧
      (s.turn t now disk).2 = (t.register remote bits).2 := by
  obtain ⟨_, _, _, _, _, stage, _, _⟩ := s
  cases stage with
  | leave => cases unregistered
  | dialogue remote d =>
    cases d with
    | register bits =>
      unfold turn
      dsimp only
      split
      next accepted => exact Or.inr ⟨remote, bits, rfl, by rw [accepted]⟩
      next refused => exact Or.inl ⟨rfl, Transfer.eq_of_register_refused refused⟩
    | awaitBitfield => exact Or.inl ⟨unregistered, rfl⟩
    | _ => cases unregistered
  | _ => exact Or.inl ⟨unregistered, rfl⟩

/-- What a session does to the download under an id is nothing to other ids. -/
theorem bitfield?_turn (holding : s.holding? = some remote) {other : PeerId}
    (apart : other ≠ remote) : (s.turn t now disk).2.bitfield? other = t.bitfield? other := by
  obtain ⟨registered, known⟩ := holding?_eq_some_iff.1 holding
  obtain ⟨_, _, _, _, _, stage, _, _⟩ := s
  cases stage with
  | leave id result =>
    cases known
    have unconcerned : ¬ (Transfer.Call.unregister remote).Concerns other := Ne.symm apart
    exact Transfer.bitfield?_call unconcerned
  | dialogue id d =>
    cases known
    unfold turn
    cases d with
    | checkComplete =>
      dsimp only
      split <;> rfl
    | addPiece i =>
      have unconcerned : ¬ (Transfer.Call.addPiece remote i).Concerns other := Ne.symm apart
      exact Transfer.bitfield?_call unconcerned
    | deliver i offset block =>
      exact Transfer.bitfield?_of_peers_eq (t.peers_deliver i offset block disk) other
    | fill =>
      have same := Transfer.bitfield?_of_peers_eq (t.peers_pick remote now) other
      dsimp only
      split
      · split
        next picked => rwa [picked] at same
        next picked => rwa [picked] at same
        next picked => rwa [picked] at same
      · rfl
    | register => cases registered
    | _ => rfl
  | _ => cases registered

theorem isRegistered_finish (registered : s.isRegistered = true)
    (result : Except SessionError Unit) : (s.finish remote result).isRegistered = true := by
  rw [finish, if_pos registered]
  rfl

theorem isRegistered_proceed {α : Type} (registered : s.isRegistered = true)
    (outcome : Except TransferError α) : (s.proceed remote outcome).isRegistered = true := by
  cases outcome with
  | error e => exact isRegistered_finish registered _
  | ok => rfl

theorem isRegistered_turn_of_stays (registered : s.isRegistered = true)
    (stays : s.leaving? = none) : (s.turn t now disk).1.isRegistered = true := by
  cases stage : s.stage with
  | dialogue id d =>
    cases d with
    | awaitBitfield =>
      rw [isRegistered, stage] at registered
      cases registered
    | register =>
      rw [isRegistered, stage] at registered
      cases registered
    | checkComplete =>
      simp only [turn, stage]
      split
      next => exact isRegistered_finish registered _
      next => rfl
    | addPiece i =>
      simp only [turn, stage]
      exact isRegistered_proceed registered _
    | deliver i offset block =>
      simp only [turn, stage]
      exact isRegistered_proceed registered _
    | fill =>
      simp only [turn, stage]
      split
      · split
        next => exact isRegistered_finish registered _
        next => rfl
        next => rfl
      · rfl
    | _ =>
      simp only [turn, stage]
      exact registered
  | leave id result =>
    rw [leaving?, stage] at stays
    cases stays
  | _ =>
    rw [isRegistered, stage] at registered
    cases registered

theorem exists_stage_of_leaving? (leaving : s.leaving? = some remote) :
    ∃ result, s.stage = .leave remote result := by
  unfold leaving? at leaving
  split at leaving
  next id result stage =>
    cases leaving
    exact ⟨result, stage⟩
  next => cases leaving

/-! ### Registrations -/

/-- A session that began with download `t` has registered its peer under an id, and it still has,
or it has ended and the table does not know the id any more. The table tells of others what it
told. -/
inductive Registered (t : Transfer) (remote : PeerId) : Session → Transfer → Prop where
  | held {s : Session} {u : Transfer} (holding : s.holding? = some remote)
      (others : ∀ other, other ≠ remote → u.bitfield? other = t.bitfield? other) :
      Registered t remote s u
  | left {s : Session} {u : Transfer} {result : Except SessionError Unit}
      (stage : s.stage = .ended (some remote) result) (gone : u.isRegistered remote = false)
      (others : ∀ other, other ≠ remote → u.bitfield? other = t.bitfield? other) :
      Registered t remote s u

theorem holding?_step_of_not_turn {h : Happening} (other : h.isTurn = false)
    (holding : s.holding? = some remote) :
    (s.step t h).1.holding? = some remote ∧ (s.step t h).2 = t := by
  obtain ⟨registered, known⟩ := holding?_eq_some_iff.1 holding
  rw [holding?_eq_some_iff]
  cases h with
  | begins => exact ⟨⟨s.isRegistered_start.trans registered, remoteId?_start known⟩, rfl⟩
  | sent failure =>
    exact ⟨⟨(s.isRegistered_sent failure).trans registered, remoteId?_sent known failure⟩, rfl⟩
  | greeted reply =>
    exact ⟨⟨(s.isRegistered_greeted reply).trans registered, remoteId?_greeted known reply⟩, rfl⟩
  | received reply =>
    exact ⟨⟨(s.isRegistered_received reply).trans registered, remoteId?_received known reply⟩, rfl⟩
  | turn now disk => cases other

theorem step_of_ended {id : Option PeerId} {result : Except SessionError Unit}
    (stage : s.stage = .ended id result) (t : Transfer) (h : Happening) : s.step t h = (s, t) := by
  cases h with
  | begins => simp only [step, start, stage]
  | sent failure => cases failure <;> simp only [step, sent, stage]
  | greeted reply => simp only [step, greeted, stage]
  | received reply => cases reply <;> simp only [step, received, stage]
  | turn now disk => simp only [step, turn, stage]

theorem Registered.turn (holding : s.holding? = some remote)
    (others : ∀ other, other ≠ remote → u.bitfield? other = t.bitfield? other) (now : Nat)
    (disk : DiskOutcome) : Registered t remote (s.turn u now disk).1 (s.turn u now disk).2 := by
  have later : ∀ other, other ≠ remote →
      (s.turn u now disk).2.bitfield? other = t.bitfield? other := by
    intro other apart
    exact (bitfield?_turn holding apart).trans (others other apart)
  obtain ⟨registered, known⟩ := holding?_eq_some_iff.1 holding
  cases leaving : s.leaving? with
  | none =>
    refine .held (holding?_eq_some_iff.2 ⟨?_, remoteId?_turn known u now disk⟩) later
    exact isRegistered_turn_of_stays registered leaving
  | some other =>
    obtain ⟨result, stage⟩ := exists_stage_of_leaving? leaving
    rw [remoteId?, stage] at known
    cases known
    have ended : (s.turn u now disk).1.stage = .ended (some remote) result := by
      simp only [Session.turn, stage]
    refine .left ended ?_ later
    rw [(turn_of_leaving? leaving u now disk).2]
    exact Bool.eq_false_iff.2 (u.not_isRegistered_unregister remote)

theorem Registered.step (registered : Registered t remote s u) (h : Happening) :
    Registered t remote (s.step u h).1 (s.step u h).2 := by
  cases registered with
  | held holding others =>
    by_cases turns : h.isTurn = true
    · cases h with
      | turn now disk => exact Registered.turn holding others now disk
      | _ => cases turns
    · obtain ⟨same, unchanged⟩ :=
        holding?_step_of_not_turn (t := u) (Bool.eq_false_iff.2 turns) holding
      refine .held same ?_
      rw [unchanged]
      exact others
  | left stage gone others =>
    rw [step_of_ended stage]
    exact .left stage gone others

theorem Registered.course (registered : Registered t remote s u) (happenings : List Happening) :
    Registered t remote (s.course u happenings).1 (s.course u happenings).2 := by
  induction happenings generalizing s u with
  | nil => exact registered
  | cons h rest ih => exact ih (registered.step h)

theorem step_of_unregistered (unregistered : s.isRegistered = false) (t : Transfer)
    (h : Happening) :
    ((s.step t h).1.isRegistered = false ∧ (s.step t h).2 = t) ∨
    ∃ remote, (s.step t h).1.holding? = some remote ∧
      ∀ other, other ≠ remote → (s.step t h).2.bitfield? other = t.bitfield? other := by
  cases h with
  | begins => exact Or.inl ⟨s.isRegistered_start.trans unregistered, rfl⟩
  | sent failure => exact Or.inl ⟨(s.isRegistered_sent failure).trans unregistered, rfl⟩
  | greeted reply => exact Or.inl ⟨(s.isRegistered_greeted reply).trans unregistered, rfl⟩
  | received reply => exact Or.inl ⟨(s.isRegistered_received reply).trans unregistered, rfl⟩
  | turn now disk =>
    apply (turn_of_unregistered unregistered).imp_right
    rintro ⟨remote, bits, holding, table⟩
    refine ⟨remote, holding, fun other apart => ?_⟩
    have unconcerned : ¬ (Transfer.Call.register remote bits).Concerns other := Ne.symm apart
    exact (congrArg (Transfer.bitfield? · other) table).trans (Transfer.bitfield?_call unconcerned)

/-! ### Whole courses -/

theorem course_cons (s : Session) (t : Transfer) (h : Happening) (rest : List Happening) :
    s.course t (h :: rest) = (s.step t h).1.course (s.step t h).2 rest := rfl

theorem course_of_unregistered {happenings : List Happening}
    (never : ∀ earlier, earlier <+: happenings → (s.course t earlier).1.isRegistered = false) :
    (s.course t happenings).2 = t := by
  induction happenings generalizing s with
  | nil => rfl
  | cons h rest ih =>
    have fresh : s.isRegistered = false := never [] List.nil_prefix
    have next : (s.step t h).1.isRegistered = false := never [h] (List.prefix_append [h] rest)
    rcases step_of_unregistered fresh t h with ⟨-, same⟩ | ⟨remote, held, -⟩
    · rw [course_cons, same]
      apply ih
      intro earlier front
      have unregistered := never (h :: earlier) ((List.prefix_cons_inj h).2 front)
      rwa [course_cons, same] at unregistered
    · exact absurd (holding?_eq_some_iff.1 held).1 (Bool.eq_false_iff.1 next)

theorem registered_of_holding (fresh : s.isRegistered = false) {happenings : List Happening}
    (holding : (s.course t happenings).1.holding? = some remote) :
    Registered t remote (s.course t happenings).1 (s.course t happenings).2 := by
  induction happenings generalizing s with
  | nil => exact absurd (holding?_eq_some_iff.1 holding).1 (Bool.eq_false_iff.1 fresh)
  | cons h rest ih =>
    rcases step_of_unregistered fresh t h with ⟨unregistered, same⟩ | ⟨id, held, others⟩
    · rw [course_cons, same] at holding ⊢
      exact ih unregistered holding
    · have later := (Registered.held held others).course rest
      rw [← course_cons] at later
      cases later with
      | held here others =>
        cases here.symm.trans holding
        exact .held here others
      | left stage =>
        rw [holding?, isRegistered, stage] at holding
        cases holding

/-- Whatever happens to a session while no other acts. Its state only goes forward. When it has
ended, its state is that it is closed and nothing is registered. If it had registered its peer, the
table does not know the id any more, and tells of others what it told when the session began. If it
had not, the download is as it was then. -/
theorem course_ended (fresh : s.isRegistered = false) (t : Transfer)
    (happenings : List Happening) {result : Except SessionError Unit}
    (ended : (s.course t happenings).1.result? = some result) :
    let x := s.course t happenings
    x.1.state = .closed ∧ x.1.isRegistered = false ∧
    (∀ earlier remote, earlier <+: happenings → (s.course t earlier).1.holding? = some remote →
      x.1.remoteId? = some remote ∧ x.2.isRegistered remote = false ∧
        ∀ other, other ≠ remote → x.2.bitfield? other = t.bitfield? other) ∧
    ((∀ earlier, earlier <+: happenings → (s.course t earlier).1.isRegistered = false) →
      x.2 = t) := by
  intro x
  obtain ⟨id, stage⟩ : ∃ id, x.1.stage = .ended id result := by
    unfold result? at ended
    split at ended
    next id _ stage =>
      cases ended
      exact ⟨id, stage⟩
    next => cases ended
  have unregistered : x.1.isRegistered = false := by rw [isRegistered, stage]
  refine ⟨by rw [state, stage], unregistered, ?_, course_of_unregistered⟩
  rintro earlier remote ⟨later, rfl⟩ holding
  have registered : Registered t remote x.1 x.2 := by
    simp only [x, course_append]
    exact (registered_of_holding fresh holding).course later
  cases registered with
  | held here => exact absurd (holding?_eq_some_iff.1 here).1 (Bool.eq_false_iff.1 unregistered)
  | left stage gone others => exact ⟨by rw [remoteId?, stage], gone, others⟩

end Session

end Swarm
