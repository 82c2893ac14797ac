import Swarm.Proofs.Peer.Sharing
import Swarm.Proofs.Scenario.Connections
import Swarm.Proofs.Transfer.Announcements

/-!
How a session begins, whatever octets its peer sends. Until a handshake for the right content and
the set of the peer's pieces have come, the session writes nothing but its own handshake and leaves
the download alone; anything else in their place ends it with an error.
-/

namespace Swarm.Scenario

/-- Octets that say which pieces a peer has, with others to follow: keep-alives, then a set of
pieces in a frame of accepted size. -/
inductive Declares (bits rest : Bytes) : Bytes → Prop where
  | now (accepted : (Message.bitfield bits).length ≤ maxFrameLength) :
      Declares bits rest ((Message.bitfield bits).frame ++ rest)
  | later {b : Bytes} (declares : Declares bits rest b) :
      Declares bits rest (Message.keepAlive.frame ++ b)

def Opens (infoHash : Digest) (remote : PeerId) (bits stream : Bytes) : Prop :=
  ∃ h front rest, stream = Handshake.encode h ++ front ∧ h.infoHash = infoHash ∧
    h.peerId = remote ∧ Declares bits rest front

namespace Connection

structure Stands (s : Session) (r : Remote) (t : Transfer) (b : Bytes)
    (x : Connection × Transfer) : Prop where
  session : x.1.session = s
  ahead : r.Holds t (x.1.remote, x.2) b

def Rests (r : Remote) (t : Transfer) (x : Connection × Transfer) : Prop :=
  x.2 = t ∧ x.1.written = r.log.map Prod.snd

variable {s : Session} {r : Remote} {t : Transfer} {b rest : Bytes} {x : Connection × Transfer}
  {remote : PeerId} {bits : Bytes}

namespace Stands

theorem rests (stands : Stands s r t b x) : Rests r t x := by
  obtain ⟨-, known, chunks, count, same, -⟩ := stands
  refine ⟨known, ?_⟩
  rw [written, show x.1.remote = _ from same]
  rfl

theorem turn (stands : Stands s r t b x) (want : s.want = .transfer) (now : Nat) :
    Stands (s.turn t now .smooth).1 r (s.turn t now .smooth).2 b (x.1.step now x.2) := by
  obtain ⟨rfl, rfl, unread⟩ := stands
  rw [step_turn want]
  exact ⟨rfl, rfl, unread⟩

theorem send (stands : Stands s r t b x) {octets : Bytes} (want : s.want = .send octets)
    (room : r.room = none) (silent : r.seeder = none) (now : Nat) :
    ∃ n, Stands (s.sent none) { r with writes := (n, octets) :: r.writes } t b
      (x.1.step now x.2) := by
  obtain ⟨rfl, rfl, chunks, count, same, stream⟩ := stands
  have sent : x.1.remote.write octets =
      (none, { x.1.remote with writes := (count, octets) :: r.writes }) := by
    rw [show x.1.remote = _ from same]
    simp only [Remote.write, room, silent, Option.any_none, Bool.false_eq_true, if_false,
      Option.map_none]
  refine ⟨count, ?_⟩
  rw [step_send want, sent]
  refine ⟨rfl, rfl, chunks, count, ?_, stream⟩
  dsimp only
  rw [show x.1.remote = _ from same]

theorem greeted (stands : Stands s r t b x) (want : s.want = .handshake)
    {reply : Except HandshakeFault Handshake} {y : Remote × Transfer}
    (came : Reader.handshake Remote.read (x.1.remote, x.2) = (reply, y)) (left : r.Holds t y rest)
    (now : Nat) : Stands (s.greeted reply) r t rest (x.1.step now x.2) := by
  obtain ⟨rfl, -⟩ := stands
  rw [step_handshake want came]
  exact ⟨rfl, left⟩

theorem received (stands : Stands s r t b x) (want : s.want = .message)
    {reply : Except MessageFault Message} {y : Remote × Transfer}
    (came : Reader.message Remote.read (x.1.remote, x.2) = (reply, y)) (left : r.Holds t y rest)
    (now : Nat) : Stands (s.received reply) r t rest (x.1.step now x.2) := by
  obtain ⟨rfl, -⟩ := stands
  rw [step_message want came]
  exact ⟨rfl, left⟩

end Stands

/-! ### Waiting for the set of pieces -/

def Failed (s : Session) (r : Remote) (t : Transfer) (x : Connection × Transfer) : Prop :=
  ∃ remote e rest, Stands { s with stage := .ended remote (.error e) } r t rest x

theorem received_of_waiting (stage : s.stage = .dialogue remote .awaitBitfield) (m : Message) :
    s.received (.ok m) = s.opened remote m := by
  simp only [Session.received, stage]

theorem received_fault_of_waiting (stage : s.stage = .dialogue remote .awaitBitfield)
    (fault : MessageFault) : s.received (.error fault) =
      { s with stage := .ended (some remote) (.error (s.messageError fault)) } := by
  simp only [Session.received, stage]
  exact Session.finish_of_unregistered stage rfl _

/-- The session comes to register its peer, and has read no further than to the set of pieces. -/
theorem leads_register_of_declares (declares : Declares bits rest b)
    (stage : s.stage = .dialogue remote .awaitBitfield) (stands : Stands s r t b x) :
    Leads (Rests r t) (Stands (s.go remote (.register bits)) r t rest) x := by
  have want : s.want = .message := by rw [Session.want, stage]
  -- By induction on the keep-alives in front of the set.
  induction declares generalizing x with
  | now accepted =>
    refine Leads.step stands.rests fun now => Leads.here ?_
    obtain ⟨y, came, left⟩ := (Remote.serves r t).message_frame accepted stands.ahead
    have next := stands.received want came left now
    rwa [received_of_waiting stage] at next
  | later _ ih =>
    refine Leads.step stands.rests fun now => ih ?_
    obtain ⟨y, came, left⟩ := (Remote.serves r t).message_frame (Nat.zero_le _) stands.ahead
    have next := stands.received want came left now
    rwa [received_of_waiting stage] at next

theorem opened_cases (stage : s.stage = .dialogue remote .awaitBitfield) (m : Message) :
    m = .keepAlive ∨ (∃ bits, m = .bitfield bits) ∨
      ∃ e, s.opened remote m = { s with stage := .ended (some remote) (.error e) } := by
  cases m with
  | keepAlive => exact Or.inl rfl
  | bitfield bits => exact Or.inr (Or.inl ⟨bits, rfl⟩)
  | _ => exact Or.inr (Or.inr ⟨_, Session.finish_of_unregistered stage rfl _⟩)

theorem leads_failed_of_not_declares (undeclared : ∀ bits rest, ¬ Declares bits rest b)
    (stage : s.stage = .dialogue remote .awaitBitfield) (stands : Stands s r t b x) :
    Leads (Rests r t) (Failed s r t) x := by
  have want : s.want = .message := by rw [Session.want, stage]
  -- By induction on what is left to be read: a keep-alive is all that lets the session go on.
  induction length : b.length using Nat.strongRecOn generalizing b x with
  | ind n ih =>
    refine Leads.step stands.rests fun now => ?_
    rcases (Remote.serves r t).message_cases stands.ahead with
      ⟨body, rest, y, whole, accepted, came, left⟩ | ⟨fault, y, rest, came, left, -⟩
    · have next := stands.received want came left now
      cases parsed : Message.parse body with
      | error e =>
        rw [parsed, show Except.mapError _ _ = Except.error _ from rfl,
          received_fault_of_waiting stage] at next
        exact Leads.here ⟨_, _, rest, next⟩
      | ok m =>
        rw [parsed, show Except.mapError _ _ = Except.ok _ from rfl,
          received_of_waiting stage] at next
        rcases opened_cases stage m with rfl | ⟨bits, rfl⟩ | ⟨e, ended⟩
        · cases Message.eq_body_of_parse parsed (.inl rfl)
          rw [← Message.frame_append] at whole
          refine ih rest.length ?_ (fun bits rest declares => ?_) next rfl
          · rw [← length, whole, List.length_append]
            exact Nat.lt_add_of_pos_left (by decide)
          · exact undeclared bits rest (whole ▸ .later declares)
        · cases Message.eq_body_of_parse parsed (.inr rfl)
          rw [← Message.frame_append] at whole
          rw [Message.length_body] at accepted
          exact absurd (whole ▸ Declares.now accepted) (undeclared bits rest)
        · exact Leads.here ⟨_, e, rest, ended ▸ next⟩
    · have next := stands.received want came left now
      rw [received_fault_of_waiting stage] at next
      exact Leads.here ⟨_, _, rest, next⟩

/-! ### Waiting for the handshake -/

theorem leads_register {h : Handshake} {front : Bytes} (same : h.infoHash = s.infoHash)
    (declares : Declares bits rest front) (stage : s.stage = .awaitHandshake)
    (stands : Stands s r t (h.encode ++ front) x) :
    Leads (Rests r t) (Stands (s.go h.peerId (.register bits)) r t rest) x := by
  have want : s.want = .handshake := by rw [Session.want, stage]
  refine Leads.step stands.rests fun now => ?_
  rcases (Remote.serves r t).handshake_cases stands.ahead with
    ⟨h', rest', y, whole, came, left⟩ | ⟨e, y, rest', -, -, wrong⟩
  · obtain ⟨rfl, rfl⟩ := Handshake.encode_append_inj whole
    have next := stands.greeted want came left now
    simp only [Session.greeted, stage, Handshake.check_eq_ok_iff.2 same] at next
    have led := leads_register_of_declares declares rfl next
    exact led
  · exact absurd rfl (wrong h front)

theorem leads_failed_of_not_opens (closed : ∀ remote bits, ¬ Opens s.infoHash remote bits b)
    (stage : s.stage = .awaitHandshake) (stands : Stands s r t b x) :
    Leads (Rests r t) (Failed s r t) x := by
  have want : s.want = .handshake := by rw [Session.want, stage]
  refine Leads.step stands.rests fun now => ?_
  rcases (Remote.serves r t).handshake_cases stands.ahead with
    ⟨h, rest, y, whole, came, left⟩ | ⟨e, y, rest, came, left, -⟩
  · have next := stands.greeted want came left now
    cases checked : h.check s.infoHash with
    | error e =>
      simp only [Session.greeted, stage, checked] at next
      exact Leads.here ⟨none, _, rest, next⟩
    | ok =>
      simp only [Session.greeted, stage, checked] at next
      have undeclared : ∀ bits later, ¬ Declares bits later rest := fun bits later declares =>
        closed h.peerId bits
          ⟨h, rest, later, whole, Handshake.check_eq_ok_iff.1 checked, rfl, declares⟩
      have failed := leads_failed_of_not_declares undeclared rfl next
      exact failed
  · have next := stands.greeted want came left now
    cases e with
    | timedOut =>
      simp only [Session.greeted, stage] at next
      exact Leads.here ⟨none, _, rest, next⟩
    | failed e =>
      simp only [Session.greeted, stage] at next
      exact Leads.here ⟨none, _, rest, next⟩

/-! ### Registering the peer -/

theorem turn_of_accepted {u : Transfer} (stage : s.stage = .dialogue remote (.register bits))
    (accepted : t.register remote bits = (true, u)) (now : Nat) :
    s.turn t now .smooth = (s.go remote .sendInterested, u) := by
  simp only [Session.turn, stage, accepted]

theorem turn_of_refused {u : Transfer} (stage : s.stage = .dialogue remote (.register bits))
    (refused : t.register remote bits = (false, u)) (now : Nat) :
    s.turn t now .smooth = ({ s with stage := .ended (some remote) (.ok ()) }, u) := by
  simp only [Session.turn, stage, refused]
  rw [Session.finish_of_unregistered stage rfl]

def Interested (t : Transfer) (hello : Bytes) (remote : PeerId) (bits : Bytes)
    (x : Connection × Transfer) : Prop :=
  x.2 = (t.register remote bits).2 ∧ x.1.written = [hello, Message.interested.frame]

theorem leads_interested {hello : Bytes} (accepted : (t.register remote bits).1 = true)
    (room : r.room = none) (silent : r.seeder = none) (said : r.log.map Prod.snd = [hello])
    (stands : Stands (s.go remote (.register bits)) r t rest x) :
    Leads (fun _ => True) (Interested t hello remote bits) x := by
  refine Leads.step trivial fun now => Leads.step trivial fun later => Leads.here ?_
  have taken : t.register remote bits = (true, (t.register remote bits).2) :=
    Prod.ext accepted rfl
  have next := stands.turn rfl now
  rw [turn_of_accepted rfl taken] at next
  obtain ⟨n, told⟩ := next.send rfl room silent later
  refine ⟨told.rests.1, told.rests.2.trans ?_⟩
  rw [Remote.log, List.reverse_cons, List.map_append]
  rw [Remote.log] at said
  rw [said]
  rfl

theorem leads_refused (refused : (t.register remote bits).1 = false)
    (stands : Stands (s.go remote (.register bits)) r t rest x) :
    Leads (Rests r t) (fun y => Rests r t y ∧ y.1.session.result? = some (.ok ())) x := by
  refine Leads.step stands.rests fun now => Leads.here ?_
  have kept : t.register remote bits = (false, t) := by
    rcases answer : t.register remote bits with ⟨taken, next⟩
    rw [answer] at refused
    cases refused
    rw [Transfer.eq_of_register_refused answer]
  have next := stands.turn rfl now
  rw [turn_of_refused rfl kept] at next
  refine ⟨next.rests, ?_⟩
  rw [next.session]
  rfl

end Connection

def Remote.saying (chunks : List Bytes) (ending : Ending) : Remote :=
  ⟨chunks.map .octets, ending, none, none, 0, []⟩

namespace Connection

def Calm (t : Transfer) (hello : Bytes) (x : Connection × Transfer) : Prop :=
  x.2 = t ∧ x.1.written <+: [hello]

def Concluded (t : Transfer) (hello : Bytes) (result : Except SessionError Unit)
    (x : Connection × Transfer) : Prop :=
  x.1.session.result? = some result ∧ x.2 = t ∧ x.1.written = [hello]

variable {s : Session} {r : Remote} {t : Transfer} {x : Connection × Transfer} {remote : PeerId}
  {bits : Bytes}

theorem Rests.calm {hello : Bytes} (rests : Rests r t x) (said : r.log.map Prod.snd = [hello]) :
    Calm t hello x :=
  ⟨rests.1, by rw [rests.2, said]⟩

theorem Concluded.calm {hello : Bytes} {result : Except SessionError Unit}
    (concluded : Concluded t hello result x) : Calm t hello x :=
  ⟨concluded.2.1, by rw [concluded.2.2]⟩

section Whole

variable {chunks : List Bytes} {ending : Ending} {hello : Bytes}

theorem leads_of_greeting {along goal : Connection × Transfer → Prop}
    (stage : s.stage = .sendHandshake) (said : (Handshake.plain s.infoHash s.ownId).encode = hello)
    (first : along (⟨s, .saying chunks ending⟩, t))
    (later : ∀ u r y, u.stage = .awaitHandshake → u.infoHash = s.infoHash → r.room = none →
      r.seeder = none → r.log.map Prod.snd = [hello] → Stands u r t chunks.flatten y →
      Leads along goal y) :
    Leads along goal (⟨s, .saying chunks ending⟩, t) := by
  have stands : Stands s (.saying chunks ending) t chunks.flatten
      (⟨s, .saying chunks ending⟩, t) :=
    ⟨rfl, rfl, chunks, 0, rfl, rfl⟩
  have want : s.want = .send hello := by rw [Session.want, stage, said]
  refine Leads.step first fun now => ?_
  obtain ⟨n, told⟩ := stands.send want rfl rfl now
  simp only [Session.sent, stage] at told
  refine later { s with stage := .awaitHandshake } _ _ rfl rfl ?_ ?_ ?_ told
  all_goals rfl

variable (stage : s.stage = .sendHandshake)
  (said : (Handshake.plain s.infoHash s.ownId).encode = hello)
include stage said

theorem leads_interested_of_opens (opens : Opens s.infoHash remote bits chunks.flatten)
    (accepted : (t.register remote bits).1 = true) :
    Leads (fun _ => True) (Interested t hello remote bits) (⟨s, .saying chunks ending⟩, t) := by
  obtain ⟨h, front, rest, opening, named, rfl, declares⟩ := opens
  refine leads_of_greeting stage said trivial fun u r y waits same room silent told stands => ?_
  have ready := leads_register (named.trans same.symm) declares waits (opening ▸ stands)
  exact (ready.mono (fun _ _ => trivial) (fun _ => id)).trans
    fun z at_hand => leads_interested accepted room silent told at_hand

theorem leads_concluded_of_refused (opens : Opens s.infoHash remote bits chunks.flatten)
    (refused : (t.register remote bits).1 = false) :
    Leads (Calm t hello) (Concluded t hello (.ok ())) (⟨s, .saying chunks ending⟩, t) := by
  obtain ⟨h, front, rest, opening, named, rfl, declares⟩ := opens
  refine leads_of_greeting stage said ⟨rfl, List.nil_prefix⟩
    fun u r y waits same _ _ told stands => ?_
  have ready := leads_register (named.trans same.symm) declares waits (opening ▸ stands)
  refine (ready.trans fun z at_hand => leads_refused refused at_hand).mono
    (fun z rests => rests.calm told) ?_
  rintro z ⟨rests, ended⟩
  exact ⟨ended, rests.1, rests.2.trans told⟩

theorem leads_concluded_of_not_opens
    (closed : ∀ remote bits, ¬ Opens s.infoHash remote bits chunks.flatten) :
    Leads (Calm t hello) (fun y => ∃ e, Concluded t hello (.error e) y)
      (⟨s, .saying chunks ending⟩, t) := by
  refine leads_of_greeting stage said ⟨rfl, List.nil_prefix⟩
    fun u r y waits same _ _ told stands => ?_
  refine (leads_failed_of_not_opens (same ▸ closed) waits stands).mono
    (fun z rests => rests.calm told) ?_
  rintro z ⟨_, e, rest, failed⟩
  refine ⟨e, ?_, failed.rests.1, failed.rests.2.trans told⟩
  rw [failed.session]
  rfl

theorem calm_of_not_accepted (clock : Nat → Nat)
    (unaccepted : ∀ remote bits, Opens s.infoHash remote bits chunks.flatten →
      (t.register remote bits).1 = false) (n : Nat) :
    Calm t hello (after clock (⟨s, .saying chunks ending⟩, t) n) := by
  by_cases opened : ∃ remote bits, Opens s.infoHash remote bits chunks.flatten
  · obtain ⟨remote, bits, opens⟩ := opened
    refine Leads.always (Leads.mono (leads_concluded_of_refused stage said opens
      (unaccepted remote bits opens)) (fun _ => id) ?_) clock n
    exact fun y concluded => ⟨concluded.calm, _, concluded.1⟩
  · have closed : ∀ remote bits, ¬ Opens s.infoHash remote bits chunks.flatten :=
      fun remote bits opens => opened ⟨remote, bits, opens⟩
    refine Leads.always (Leads.mono (leads_concluded_of_not_opens stage said closed)
      (fun _ => id) ?_) clock n
    exact fun y ⟨e, concluded⟩ => ⟨concluded.calm, _, concluded.1⟩

end Whole

end Connection

/-- Whatever octets a peer sends, in whatever chunks, and whatever the state of the download: the
session changes the download or writes more than its handshake only if the octets start with a
handshake for its content, keep-alives and a set of pieces in a frame of accepted size, and the
download takes the peer. Then exactly that set is registered under the id of the handshake, and the
next thing written is that the session is interested. A peer that is not taken ends the session well
and changes nothing, and octets of another form end it with an error and change nothing. -/
theorem nothing_before_opening (peer : Peer) (infoHash : Digest) (ownId : PeerId) (pipeline : Nat)
    (readTimeout : Duration) (t : Transfer) (chunks : List Bytes) (ending : Ending)
    (clock : Nat → Nat) :
    let s := (Session.new peer infoHash ownId pipeline readTimeout).start
    let x := Connection.after clock (⟨s, .saying chunks ending⟩, t)
    let hello := (Handshake.plain infoHash ownId).encode
    (∀ n, (x n).2 ≠ t ∨ ¬ (x n).1.written <+: [hello] → ∃ remote bits,
      Opens infoHash remote bits chunks.flatten ∧ (t.register remote bits).1 = true) ∧
    (∀ remote bits, Opens infoHash remote bits chunks.flatten →
      (t.register remote bits).1 = true → ∃ n, (x n).2 = (t.register remote bits).2 ∧
        (x n).2.bitfield? remote = some bits ∧
        (x n).1.written = [hello, Message.interested.frame] ∧
        ∀ k, (x n).1.written <+: (x (n + k)).1.written) ∧
    (∀ remote bits, Opens infoHash remote bits chunks.flatten →
      (t.register remote bits).1 = false → ∃ n, (x n).1.session.result? = some (.ok ()) ∧
        (x n).2 = t ∧ (x n).1.written = [hello]) ∧
    ((∀ remote bits, ¬ Opens infoHash remote bits chunks.flatten) → ∃ n e,
      (x n).1.session.result? = some (.error e) ∧ (x n).2 = t ∧ (x n).1.written = [hello]) := by
  intro s x hello
  have stage : s.stage = .sendHandshake := rfl
  refine ⟨?_, ?_, ?_, ?_⟩
  · intro n changed
    by_contra unaccepted
    have calm : Connection.Calm t hello (x n) :=
      Connection.calm_of_not_accepted stage rfl clock (fun remote bits opens =>
        Bool.eq_false_iff.2 fun accepted => unaccepted ⟨remote, bits, opens, accepted⟩) n
    rcases changed with changed | wrote
    · exact changed calm.1
    · exact wrote calm.2
  · intro remote bits opens accepted
    obtain ⟨n, ⟨registered, written⟩, -⟩ :=
      Connection.leads_interested_of_opens stage rfl opens accepted clock
    refine ⟨n, registered, ?_, written, Connection.written_after clock _ n⟩
    rw [registered]
    exact Transfer.bitfield?_of_accepted (Prod.ext accepted rfl)
  · intro remote bits opens refused
    obtain ⟨n, concluded, -⟩ :=
      Connection.leads_concluded_of_refused stage rfl opens refused clock
    exact ⟨n, concluded⟩
  · intro closed
    obtain ⟨n, ⟨e, concluded⟩, -⟩ :=
      Connection.leads_concluded_of_not_opens stage rfl closed clock
    exact ⟨n, e, concluded⟩

namespace Opening.Sample

def infoHash : Digest := Fixed.fill 20 17

def remote : PeerId := Fixed.fill 20 1

/-- Handshake, keep-alive and a set of two pieces, cut inside the keep-alive. -/
def chunks : List Bytes :=
  [(Handshake.plain infoHash remote).encode ++ [0, 0], [0, 0] ++ (Message.bitfield [192]).frame]

def transfer : Transfer := .start Transfer.Sample.content 4 1000 (.ofContent "out" 3 [9])

theorem opens : Opens infoHash remote [192] chunks.flatten :=
  ⟨.plain infoHash remote, _, [], by rfl, rfl, rfl, .later (.now (by decide))⟩

theorem not_opens (other : PeerId) (bits : Bytes) :
    ¬ Opens infoHash other bits [[1, 2, 3]].flatten := by
  rintro ⟨h, front, -, same, -⟩
  have lengths := congrArg List.length same
  rw [List.length_append, h.length_encode] at lengths
  simp [Handshake.size] at lengths
  omega

end Opening.Sample

theorem nothing_before_opening_sample :
    let s := (Session.new ⟨⟨.v4 ⟨10, 0, 0, 1⟩, 6881, 0⟩, none⟩ Opening.Sample.infoHash
      (Fixed.fill 20 5) 4 (.ofSeconds 120)).start
    let hello := (Handshake.plain Opening.Sample.infoHash (Fixed.fill 20 5)).encode
    let x := fun chunks => Connection.after (fun _ => 0)
      (⟨s, .saying chunks .closes⟩, Opening.Sample.transfer)
    (∃ n, (x Opening.Sample.chunks n).2.bitfield? Opening.Sample.remote = some [192] ∧
      (x Opening.Sample.chunks n).1.written = [hello, Message.interested.frame]) ∧
    ∃ n e, (x [[1, 2, 3]] n).1.session.result? = some (.error e) ∧
      (x [[1, 2, 3]] n).1.written = [hello] := by
  intro s hello x
  obtain ⟨-, accepted, -, -⟩ := nothing_before_opening ⟨⟨.v4 ⟨10, 0, 0, 1⟩, 6881, 0⟩, none⟩
    Opening.Sample.infoHash (Fixed.fill 20 5) 4 (.ofSeconds 120) Opening.Sample.transfer
    Opening.Sample.chunks .closes fun _ => 0
  obtain ⟨-, -, -, failed⟩ := nothing_before_opening ⟨⟨.v4 ⟨10, 0, 0, 1⟩, 6881, 0⟩, none⟩
    Opening.Sample.infoHash (Fixed.fill 20 5) 4 (.ofSeconds 120) Opening.Sample.transfer
    [[1, 2, 3]] .closes fun _ => 0
  obtain ⟨n, -, known, written, -⟩ := accepted _ _ Opening.Sample.opens (by decide)
  obtain ⟨m, e, ended, -, only⟩ := failed Opening.Sample.not_opens
  exact ⟨⟨n, known, written⟩, m, e, ended, only⟩

end Swarm.Scenario
