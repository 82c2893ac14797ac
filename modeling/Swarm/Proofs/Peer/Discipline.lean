import Mathlib.Data.List.Basic
import Swarm.Proofs.Peer.InFlight
import Swarm.Proofs.Transfer.Announcements
import Swarm.Proofs.Transfer.Handouts

/-!
What a session may write once it has told its peer that it is interested: requests and nothing else,
each while the peer takes requests, for a block that there is, of a piece that this peer has
announced. And what it may not be sent: the first message that a peer has no business to send is the
last thing that goes over the connection.

The calls of others do not change what is announced for the session's own peer, as long as none of
them uses its id.
-/

namespace Swarm

open Storage (OutputFile)

namespace Conversation

def Declared (log : List Traffic) : Prop := .wrote Message.interested.frame ∈ log

/-- The peer has said that it takes requests, and not refused them since. -/
def Unchoked (log : List Traffic) : Prop :=
  ∃ before later, log = before ++ .read .unchoke :: later ∧ .read .choke ∉ later

def Announced (log : List Traffic) (i : Nat) : Prop :=
  (∃ bits, .read (.bitfield bits) ∈ log ∧ Bitfield.has bits i = true) ∨
    ∃ w : UInt32, .read (.have w) ∈ log ∧ w.toNat = i

/-- The octets are a request that may be made after what has gone over the connection. -/
def Permitted (c : Content) (before : List Traffic) (octets : Bytes) : Prop :=
  ∃ r, octets = (Session.requestMessage r).frame ∧ c.HasBlock r ∧ Unchoked before ∧
    Announced before r.piece

/-- A message was read that the peer has no business to send to one who is interested. -/
def Protested (log : List Traffic) (m : Message) : Prop :=
  ∃ before later, log = before ++ .read m :: later ∧ Declared before ∧ m.kind.isServed = false

def Listed (log : List Traffic) (t : Transfer) (remote : PeerId) : Prop :=
  ∃ bits, t.bitfield? remote = some bits ∧ ∀ i, Bitfield.has bits i = true → Announced log i

def Early (log : List Traffic) (s : Session) : Prop := ¬ Declared log ∧ s.choked = true

def Pending (c : Content) (log : List Traffic) (s : Session) : Dialogue → Prop
  | .addPiece i => Announced log i
  | .sendRequest r => s.mayRequest = true ∧ Announced log r.piece ∧ c.HasBlock r
  | _ => True

def Prepared (c : Content) (log : List Traffic) (t : Transfer) (s : Session) : Prop :=
  match s.stage with
  | .idle | .sendHandshake | .awaitHandshake | .dialogue _ .awaitBitfield => Early log s
  | .dialogue _ (.register bits) =>
    Early log s ∧ ∀ i, Bitfield.has bits i = true → Announced log i
  | .dialogue remote .sendInterested => Early log s ∧ Listed log t remote
  | .dialogue remote d =>
    Listed log t remote ∧ (s.choked = false → Unchoked log) ∧ Pending c log s d
  | .leave .. | .ended .. => True

/-! ### The log as it grows -/

section Log

variable {log passed : List Traffic} {t t' : Transfer} {remote : PeerId} {i : Nat} {m : Message}

theorem Announced.append (announced : Announced log i) (passed : List Traffic) :
    Announced (log ++ passed) i := by
  rcases announced with ⟨bits, member, has⟩ | ⟨w, member, same⟩
  · exact Or.inl ⟨bits, List.mem_append_left _ member, has⟩
  · exact Or.inr ⟨w, List.mem_append_left _ member, same⟩

theorem Listed.append (listed : Listed log t remote)
    (same : t'.bitfield? remote = t.bitfield? remote) (passed : List Traffic) :
    Listed (log ++ passed) t' remote := by
  obtain ⟨bits, known, announced⟩ := listed
  exact ⟨bits, same.trans known, fun i has => (announced i has).append passed⟩

theorem Unchoked.append (unchoked : Unchoked log) (none_refused : .read .choke ∉ passed) :
    Unchoked (log ++ passed) := by
  obtain ⟨before, later, rfl, kept⟩ := unchoked
  refine ⟨before, later ++ passed, by rw [List.append_assoc, List.cons_append], ?_⟩
  rw [List.mem_append, not_or]
  exact ⟨kept, none_refused⟩

theorem not_declared_append (undeclared : ¬ Declared log)
    (none_declared : .wrote Message.interested.frame ∉ passed) : ¬ Declared (log ++ passed) := by
  rw [Declared, List.mem_append, not_or]
  exact ⟨undeclared, none_declared⟩

theorem split_append {x : Traffic} {before later : List Traffic} (brief : passed.length ≤ 1)
    (same : log ++ passed = before ++ x :: later) :
    (∃ later', log = before ++ x :: later') ∨ before = log ∧ x ∈ passed := by
  match passed, brief with
  | [], _ =>
    rw [List.append_nil] at same
    exact Or.inl ⟨later, same⟩
  | [y], _ =>
    rcases List.eq_nil_or_concat later with rfl | ⟨later', z, rfl⟩
    · obtain ⟨front, last⟩ := List.append_inj' same rfl
      cases last
      exact Or.inr ⟨front.symm, List.mem_singleton_self _⟩
    · rw [List.concat_eq_append, ← List.cons_append, ← List.append_assoc] at same
      exact Or.inl ⟨later', (List.append_inj' same rfl).1⟩

theorem protested_append (brief : passed.length ≤ 1) (protested : Protested (log ++ passed) m) :
    Protested log m ∨ .read m ∈ passed ∧ Declared log ∧ m.kind.isServed = false := by
  obtain ⟨before, later, same, declared, unserved⟩ := protested
  rcases split_append brief same with ⟨later', old⟩ | ⟨rfl, new⟩
  · exact Or.inl ⟨before, later', old, declared, unserved⟩
  · exact Or.inr ⟨new, declared, unserved⟩

end Log

end Conversation

/-! ### Single steps -/

namespace Session

open Conversation

variable {s s' : Session} {t t' : Transfer} {passed log : List Traffic} {c : Content}

theorem Step.brief (step : s.Step t passed s' t') : passed.length ≤ 1 := by
  cases step with
  | ends _ _ heard => rcases heard with rfl | ⟨m, rfl⟩ <;> simp
  | _ => simp only [List.length_nil, List.length_singleton, Nat.zero_le, Nat.le_refl]

theorem Step.from_ (step : s.Step t passed s' t') : t' = t ∨ ∃ call, t' = (t.call call).2 := by
  cases step with
  | @registers remote bits _ _ accepted =>
    exact Or.inr ⟨.register remote bits, (congrArg Prod.snd accepted).symm⟩
  | @adds remote i _ _ added =>
    exact Or.inr ⟨.addPiece remote i, (congrArg Prod.snd added).symm⟩
  | @delivers _ i offset block _ disk => exact Or.inr ⟨.deliver i offset block disk, rfl⟩
  | @rests remote _ _ from_ =>
    rcases from_ with same | ⟨now, picked⟩
    · exact Or.inl same
    · exact Or.inr ⟨.pick remote now, picked⟩
  | @asks remote now _ _ _ _ picked =>
    exact Or.inr ⟨.pick remote now, (congrArg Prod.snd picked).symm⟩
  | quits _ _ from_ => exact from_
  | @leaves remote _ _ => exact Or.inr ⟨.unregister remote, rfl⟩
  | _ => exact Or.inl rfl

theorem Step.sound (step : s.Step t passed s' t') (sound : t.Sound) :
    t'.Sound ∧ t'.content = t.content := by
  rcases step.from_ with rfl | ⟨call, rfl⟩
  · exact ⟨sound, rfl⟩
  · have made := sound.call_step call
    exact ⟨made.sound sound, made.settings.1⟩

/-- Once it is known how a session ends, nothing goes over its connection. -/
theorem Step.verdict? {result : Except SessionError Unit} (step : s.Step t passed s' t')
    (known : s.verdict? = some result) : passed = [] ∧ s'.verdict? = some result := by
  cases step with
  | passes => exact ⟨rfl, known⟩
  | leaves stage =>
    rw [Session.verdict?, stage] at known
    exact ⟨rfl, known⟩
  | ends _ going => cases going.symm.trans known
  | begins stage | greets stage | meets stage | waits stage | learns stage | registers stage
  | declares stage | listens stage | alive stage | choked stage | unchoked stage | announced stage
  | brought stage | protests stage | adds stage | delivers stage | rests stage | asks stage
  | asked stage | quits stage =>
    rw [Session.verdict?, stage] at known
    cases known

theorem result?_turn_of_verdict? {result : Except SessionError Unit}
    (known : s.verdict? = some result) (t : Transfer) (now : Nat) (disk : Storage.DiskOutcome) :
    (s.turn t now disk).1.result? = some result := by
  unfold Session.verdict? at known
  split at known
  next stage =>
    cases known
    simp only [turn, stage, result?]
  next stage =>
    cases known
    simp only [turn, stage, result?]
  next => cases known

theorem interested_ne_handshake (h : Handshake) : Message.interested.frame ≠ h.encode := by
  intro same
  have lengths := congrArg List.length same
  rw [h.length_encode] at lengths
  cases lengths

theorem Step.prepared (step : s.Step t passed s' t') (sound : t.Sound) (content : t.content = c)
    (prepared : Prepared c log t s) : Prepared c (log ++ passed) t' s' := by
  unfold Prepared at prepared
  -- What is known stays known as the log grows. There is something new to know only after the steps
  -- that read what the peer has or takes, and after a block was picked.
  cases step with
  | passes => rwa [List.append_nil]
  | ends => trivial
  | quits => trivial
  | leaves => trivial
  | protests => trivial
  | begins stage =>
    rw [stage] at prepared
    rwa [List.append_nil]
  | greets stage =>
    rw [stage] at prepared
    refine ⟨not_declared_append prepared.1 ?_, prepared.2⟩
    rw [List.mem_singleton, Traffic.wrote.injEq]
    exact interested_ne_handshake _
  | meets stage =>
    rw [stage] at prepared
    rwa [List.append_nil]
  | waits stage =>
    rw [Prepared, stage]
    rw [stage] at prepared
    exact ⟨not_declared_append prepared.1 (by simp), prepared.2⟩
  | @learns remote bits stage =>
    rw [stage] at prepared
    refine ⟨⟨not_declared_append prepared.1 (by simp), prepared.2⟩, ?_⟩
    intro i has
    exact Or.inl ⟨bits, List.mem_append_right _ (List.mem_singleton_self _), has⟩
  | @registers remote bits _ stage accepted =>
    rw [stage] at prepared
    rw [List.append_nil]
    exact ⟨prepared.1, bits, Transfer.bitfield?_of_accepted accepted, prepared.2⟩
  | declares stage =>
    rw [stage] at prepared
    obtain ⟨⟨-, choked⟩, listed⟩ := prepared
    refine ⟨listed.append rfl _, ?_, trivial⟩
    intro unchoked
    cases choked.symm.trans unchoked
  | listens stage =>
    rw [stage] at prepared
    rw [List.append_nil]
    exact ⟨prepared.1, prepared.2.1, trivial⟩
  | alive stage =>
    rw [stage] at prepared
    obtain ⟨listed, unchoked, -⟩ := prepared
    exact ⟨listed.append rfl _, fun free => (unchoked free).append (by simp), trivial⟩
  | choked stage =>
    rw [stage] at prepared
    exact ⟨prepared.1.append rfl _, nofun, trivial⟩
  | unchoked stage =>
    rw [stage] at prepared
    exact ⟨prepared.1.append rfl _, fun _ => ⟨log, [], rfl, List.not_mem_nil⟩, trivial⟩
  | @announced remote i stage =>
    rw [stage] at prepared
    obtain ⟨listed, unchoked, -⟩ := prepared
    refine ⟨listed.append rfl _, fun free => (unchoked free).append (by simp), ?_⟩
    exact Or.inr ⟨i, List.mem_append_right _ (List.mem_singleton_self _), rfl⟩
  | brought stage =>
    rw [stage] at prepared
    obtain ⟨listed, unchoked, -⟩ := prepared
    exact ⟨listed.append rfl _, fun free => (unchoked free).append (by simp), trivial⟩
  | @adds remote i _ stage added =>
    rw [stage] at prepared
    rw [List.append_nil]
    obtain ⟨⟨bits, known, listed⟩, unchoked, announced⟩ := prepared
    obtain ⟨before, same, later⟩ := Transfer.bitfield?_of_added added
    cases known.symm.trans same
    refine ⟨⟨_, later, ?_⟩, unchoked, trivial⟩
    intro j has
    rcases (Bitfield.has_insert bits i j).1 has with rfl | old
    · exact announced
    · exact listed j old
  | @delivers remote i offset block stage disk =>
    rw [stage] at prepared
    obtain ⟨listed, unchoked, -⟩ := prepared
    have same := Transfer.bitfield?_of_peers_eq (t.peers_deliver i offset block disk) remote
    exact ⟨listed.append same _, by rwa [List.append_nil], trivial⟩
  | @rests remote _ stage from_ =>
    rw [stage] at prepared
    obtain ⟨listed, unchoked, -⟩ := prepared
    rcases from_ with rfl | ⟨now, rfl⟩
    · exact ⟨listed.append rfl _, by rwa [List.append_nil], trivial⟩
    · have same := Transfer.bitfield?_of_peers_eq (t.peers_pick remote now) remote
      exact ⟨listed.append same _, by rwa [List.append_nil], trivial⟩
  | @asks remote now r _ stage free picked =>
    rw [stage] at prepared
    rw [List.append_nil]
    obtain ⟨listed, unchoked, -⟩ := prepared
    have peers := t.peers_pick remote now
    rw [picked] at peers
    obtain ⟨⟨bits, known, has⟩, block, -⟩ := sound.handedOut picked
    obtain ⟨bits', known', announced⟩ := listed
    cases known.symm.trans known'
    have same := (Transfer.bitfield?_of_peers_eq peers remote).trans known
    exact ⟨⟨bits, same, announced⟩, unchoked, free, announced r.piece has, content ▸ block⟩
  | asked stage =>
    rw [stage] at prepared
    obtain ⟨listed, unchoked, -⟩ := prepared
    exact ⟨listed.append rfl _, fun free => (unchoked free).append (by simp), trivial⟩

theorem not_declared_of_unregistered (prepared : Prepared c log t s)
    (unregistered : s.isRegistered = false) (going : s.verdict? = none) : ¬ Declared log := by
  unfold Prepared at prepared
  unfold isRegistered at unregistered
  unfold Session.verdict? at going
  cases stage : s.stage with
  | idle | sendHandshake | awaitHandshake =>
    rw [stage] at prepared
    exact prepared.1
  | leave | ended =>
    rw [stage] at going
    cases going
  | dialogue remote d =>
    rw [stage] at prepared unregistered
    cases d with
    | awaitBitfield => exact prepared.1
    | register bits => exact prepared.1.1
    | _ => cases unregistered

/-- What is written by a session that has said it is interested is a permitted request. -/
theorem Step.permitted (step : s.Step t passed s' t') (prepared : Prepared c log t s)
    {octets : Bytes} (written : .wrote octets ∈ passed) (declared : Declared log) :
    Permitted c log octets := by
  unfold Prepared at prepared
  cases step with
  | greets stage =>
    rw [stage] at prepared
    exact absurd declared prepared.1
  | declares stage =>
    rw [stage] at prepared
    exact absurd declared prepared.1.1
  | @asked remote r stage =>
    rw [stage] at prepared
    obtain ⟨-, unchoked, free, announced, block⟩ := prepared
    cases List.mem_singleton.1 written
    exact ⟨r, rfl, block, unchoked (mayRequest_iff.1 free).1, announced⟩
  | ends _ _ heard =>
    rcases heard with rfl | ⟨m, rfl⟩
    · cases written
    · cases List.mem_singleton.1 written
  | passes | begins | meets | registers | listens | adds | delivers | rests | asks | quits
  | leaves => cases written
  | waits | learns | alive | choked | unchoked | announced | brought | protests =>
    cases List.mem_singleton.1 written

/-- A session that has said it is interested ends over what it is not to be sent. -/
theorem Step.protested (step : s.Step t passed s' t') (prepared : Prepared c log t s)
    {m : Message} (heard : .read m ∈ passed) (declared : Declared log)
    (unserved : m.kind.isServed = false) :
    s'.verdict? = some (.error (.wire (.unsupported m.kind))) := by
  have waiting {remote : PeerId} (stage : s.stage = .dialogue remote .awaitBitfield) : False := by
    rw [Prepared, stage] at prepared
    exact prepared.1 declared
  cases step with
  | protests stage =>
    cases List.mem_singleton.1 heard
    rfl
  | ends unregistered going =>
    exact absurd declared (not_declared_of_unregistered prepared unregistered going)
  | waits stage => exact (waiting stage).elim
  | learns stage => exact (waiting stage).elim
  | alive | choked | unchoked | announced | brought =>
    cases List.mem_singleton.1 heard
    cases unserved
  | passes | begins | meets | registers | listens | adds | delivers | rests | asks | quits
  | leaves => cases heard
  | greets | declares | asked => cases List.mem_singleton.1 heard

theorem remoteId?_step {remote : PeerId} (known : s.remoteId? = some remote) (t : Transfer)
    (h : Happening) : (s.step t h).1.remoteId? = some remote := by
  cases h with
  | begins => exact remoteId?_start known
  | sent failure => exact remoteId?_sent known failure
  | greeted reply => exact remoteId?_greeted known reply
  | received reply => exact remoteId?_received known reply
  | turn now disk => exact remoteId?_turn known t now disk

end Session

/-! ### Whole conversations -/

namespace Conversation

structure Disciplined (c : Content) (g : Conversation) : Prop where
  sound : g.transfer.Sound
  content : g.transfer.content = c
  prepared : Prepared c g.log g.transfer g.session
  permitted : ∀ before octets later, g.log = before ++ .wrote octets :: later → Declared before →
    Permitted c before octets
  quiet : ∀ before x later, g.log = before ++ x :: later → ∀ m, ¬ Protested before m
  verdict : ∀ m, Protested g.log m →
    g.session.verdict? = some (.error (.wire (.unsupported m.kind)))

variable {c : Content} {g : Conversation}

theorem Disciplined.own (disciplined : Disciplined c g) (h : Session.Happening) :
    Disciplined c (g.step (.own h)) := by
  have step := g.session.step_step g.transfer h
  obtain ⟨sound, content, prepared, permitted, quiet, verdict⟩ := disciplined
  constructor
  case sound => exact (step.sound sound).1
  case content => exact (step.sound sound).2.trans content
  case prepared => exact step.prepared sound content prepared
  case permitted =>
    intro before octets later same declared
    rcases split_append step.brief same with ⟨later', old⟩ | ⟨rfl, new⟩
    · exact permitted before octets later' old declared
    · exact step.permitted prepared new declared
  case quiet =>
    intro before x later same m protested
    rcases split_append step.brief same with ⟨later', old⟩ | ⟨rfl, new⟩
    · exact quiet before x later' old m protested
    · rw [(step.verdict? (verdict m protested)).1] at new
      cases new
  case verdict =>
    intro m protested
    rcases protested_append step.brief protested with old | ⟨heard, declared, unserved⟩
    · exact (step.verdict? (verdict m old)).2
    · exact step.protested prepared heard declared unserved

theorem Prepared.other {log : List Traffic} {t : Transfer} {s : Session} {call : Transfer.Call}
    (prepared : Prepared c log t s)
    (apart : ∀ remote, s.remoteId? = some remote → ¬ call.Concerns remote) :
    Prepared c log (t.call call).2 s := by
  have listed {remote : PeerId} (met : s.remoteId? = some remote) (listed : Listed log t remote) :
      Listed log (t.call call).2 remote := by
    obtain ⟨bits, known, announced⟩ := listed
    exact ⟨bits, (Transfer.bitfield?_call (apart remote met)).trans known, announced⟩
  unfold Prepared at prepared ⊢
  cases stage : s.stage with
  | dialogue remote d =>
    have met : s.remoteId? = some remote := by rw [Session.remoteId?, stage]
    rw [stage] at prepared
    cases d with
    | awaitBitfield => exact prepared
    | register bits => exact prepared
    | sendInterested => exact ⟨prepared.1, listed met prepared.2⟩
    | _ => exact ⟨listed met prepared.1, prepared.2⟩
  | _ =>
    rw [stage] at prepared
    exact prepared

theorem Disciplined.other (disciplined : Disciplined c g) {call : Transfer.Call}
    (apart : ∀ remote, g.session.remoteId? = some remote → ¬ call.Concerns remote) :
    Disciplined c (g.step (.other call)) where
  sound := (disciplined.sound.call_step call).sound disciplined.sound
  content := (disciplined.sound.call_step call).settings.1.trans disciplined.content
  prepared := disciplined.prepared.other apart
  permitted := disciplined.permitted
  quiet := disciplined.quiet
  verdict := disciplined.verdict

theorem disciplined_start (sound : g.transfer.Sound) (content : g.transfer.content = c)
    (stage : g.session.stage = .idle) (choked : g.session.choked = true) (log : g.log = []) :
    Disciplined c g := by
  have nothing : ∀ before (x : Traffic) later, g.log ≠ before ++ x :: later := by
    intro before x later same
    rw [log] at same
    simp at same
  constructor
  case sound => exact sound
  case content => exact content
  case prepared =>
    rw [Prepared, stage, log]
    exact ⟨List.not_mem_nil, choked⟩
  case permitted => exact fun before octets later same => absurd same (nothing _ _ _)
  case quiet => exact fun before x later same => absurd same (nothing _ _ _)
  case verdict =>
    intro m protested
    obtain ⟨before, later, same, -⟩ := protested
    exact absurd same (nothing _ _ _)

/-- No one else uses the id of the session's peer, in any of some moves. -/
def Alone (g : Conversation) (moves : List Move) : Prop :=
  ∀ remote, g.session.remoteId? = some remote → ∀ call, .other call ∈ moves →
    ¬ call.Concerns remote

theorem disciplined_run (disciplined : Disciplined c g) {moves : List Move}
    (alone : (g.run moves).Alone moves) : Disciplined c (g.run moves) := by
  -- The id that the peer has given by the end of the run is the one that it had at each step.
  refine run_induction (P := fun h => h.Alone moves → Disciplined c h) moves ?_
    (fun _ => disciplined) alone
  intro move member h before alone
  have earlier : h.Alone moves := by
    intro remote met
    refine alone remote ?_
    cases move with
    | own happening => exact Session.remoteId?_step met h.transfer happening
    | other call => exact met
  cases move with
  | own happening => exact (before earlier).own happening
  | other call => exact (before earlier).other fun remote met => earlier remote met call member

end Conversation

/-- A session that has said it is interested writes requests only: each while the peer takes
requests, for a whole block of a piece that this peer has announced. It never has more of them in
flight than it may. The first message that the peer has no business to send is the last thing that
goes over the connection, and the session ends with an error that names it. -/
theorem requests_disciplined {c : Content} (wf : c.WellFormed) (maxPeers requestTimeout : Nat)
    (file : OutputFile) (earlier : List Transfer.Call) (peer : Peer) (infoHash : Digest)
    (ownId : PeerId) (pipeline : Nat) (readTimeout : Duration) (moves : List Move) :
    let t := (Transfer.start c maxPeers requestTimeout file).after earlier
    let g := (Conversation.start (.new peer infoHash ownId pipeline readTimeout) t).run moves
    g.Alone moves →
      g.session.inFlight ≤ pipeline ∧
      (∀ before octets later, g.log = before ++ .wrote octets :: later →
        .wrote Message.interested.frame ∈ before →
        ∃ index start length : UInt32, octets = (Message.request index start length).frame ∧
          Conversation.Unchoked before ∧ Conversation.Announced before index.toNat ∧
          index.toNat < c.pieceCount ∧ blockSize ∣ start.toNat ∧
          start.toNat + length.toNat ≤ c.sizeAt index.toNat ∧ 0 < length.toNat ∧
          length.toNat = min blockSize (c.sizeAt index.toNat - start.toNat)) ∧
      ∀ before m later, g.log = before ++ .read m :: later →
        .wrote Message.interested.frame ∈ before →
        m.kind ∈ [.interested, .notInterested, .request, .cancel, .port, .bitfield] →
        later = [] ∧ ∀ t now disk, (g.session.turn t now disk).1.result? =
          some (.error (.wire (.unsupported m.kind))) := by
  intro t g alone
  have disciplined : Conversation.Disciplined c g := by
    refine Conversation.disciplined_run (Conversation.disciplined_start ?_ ?_ rfl rfl rfl) alone
    · exact Transfer.sound_after wf maxPeers requestTimeout file earlier
    · exact ((Transfer.Sound.start wf maxPeers requestTimeout file).settings_after earlier).1
  refine ⟨?_, ?_, ?_⟩
  · exact (Conversation.accounted_run peer infoHash ownId pipeline readTimeout t moves).bounded
  · intro before octets later same declared
    obtain ⟨r, rfl, block, unchoked, announced⟩ :=
      disciplined.permitted before octets later same declared
    obtain ⟨piece, offset, length⟩ := wf.toNat_of_hasBlock block
    refine ⟨_, _, _, rfl, unchoked, ?_⟩
    rw [piece, offset, length]
    exact ⟨announced, block.1, block.bounds⟩
  · intro before m later same declared kind
    have unserved : m.kind.isServed = false := by
      simp only [List.mem_cons, List.not_mem_nil, or_false] at kind
      rcases kind with kind | kind | kind | kind | kind | kind <;> rw [kind] <;> rfl
    constructor
    · cases later with
      | nil => rfl
      | cons x rest =>
        have split : g.log = (before ++ [.read m]) ++ x :: rest := by
          rw [same, List.append_assoc, List.singleton_append]
        exact absurd ⟨before, [], rfl, declared, unserved⟩ (disciplined.quiet _ x rest split m)
    · intro u now disk
      have verdict := disciplined.verdict m ⟨before, later, same, declared, unserved⟩
      exact Session.result?_turn_of_verdict? verdict u now disk

namespace Conversation.Sample

/-- Another peer is registered, and the session's own peer says that it is interested. -/
def trespass : List Move :=
  [.other (.register (Fixed.fill 20 2) [128]), .own (.received (.ok .interested))]

def moves : List Move := opening ++ exchange ++ trespass

theorem wellFormed : content.WellFormed := by
  constructor <;> decide +kernel

theorem alone : ((start session transfer).run moves).Alone moves := by
  intro remote met call member
  have own : ((start session transfer).run moves).session.remoteId? = some (Fixed.fill 20 1) := by
    decide +kernel
  cases own.symm.trans met
  simp only [moves, opening, exchange, trespass, List.mem_append, List.mem_map, List.mem_cons,
    List.not_mem_nil, or_false, reduceCtorEq, and_false, exists_false, false_or,
    Move.other.injEq] at member
  subst member
  decide

end Conversation.Sample

theorem requests_disciplined_sample :
    let c := Conversation.Sample.content
    let g := (Conversation.start Conversation.Sample.session Conversation.Sample.transfer).run
      Conversation.Sample.moves
    c.WellFormed ∧ g.Alone Conversation.Sample.moves ∧ g.session.inFlight ≤ 1 ∧
      (∃ before later, g.log = before ++ .wrote (Message.request 1 0 1).frame :: later ∧
        Conversation.Unchoked before ∧ Conversation.Announced before 1) ∧
      (g.session.turn g.transfer 0 .smooth).1.result? =
        some (.error (.wire (.unsupported .interested))) := by
  intro c g
  obtain ⟨bounded, requests, trespass⟩ := requests_disciplined Conversation.Sample.wellFormed 4 1000
    (.ofContent "out" 3 []) [] _ (Fixed.fill 20 17) (Fixed.fill 20 5) 1 (.ofSeconds 120)
    Conversation.Sample.moves Conversation.Sample.alone
  have written : g.log = g.log.take 6 ++ .wrote (Message.request 1 0 1).frame :: g.log.drop 7 := by
    decide +kernel
  have last : g.log = g.log.take 7 ++ .read .interested :: [] := by decide +kernel
  refine ⟨Conversation.Sample.wellFormed, Conversation.Sample.alone, bounded, ?_, ?_⟩
  · obtain ⟨index, start, length, frame, unchoked, announced, -⟩ :=
      requests _ _ _ written (by decide +kernel)
    have fits (a b d : UInt32) : (Message.request a b d).length < UInt32.size :=
      (by decide : 13 < UInt32.size)
    cases Message.eq_of_frame_eq (fits ..) (fits ..) frame
    exact ⟨_, _, written, unchoked, announced⟩
  · exact (trespass _ _ _ last (by decide +kernel) (by decide)).2 g.transfer 0 .smooth

end Swarm
