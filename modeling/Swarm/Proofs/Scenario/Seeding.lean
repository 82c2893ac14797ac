import Swarm.Proofs.Scenario.Seeder
import Swarm.Proofs.Transfer.Completion

/-!
A download from one seeder. At every point of the dialogue the answers that are left to be read are
those to the requests that are due, so the session never waits for an answer that does not come. A
request is sent for each block once, so there is an end to it, and then the file is there.
-/

namespace Swarm.Scenario

open Storage (OutputFile Tree)
open Transfer (Exchange)

structure Party.Supplies (p : Party) (t : Transfer) (data : Bytes) : Prop where
  sound : t.Sound
  saved : t.Saved
  describes : t.content.Describes data
  content : p.seeder.content = data
  pieces : p.seeder.pieceLength = t.content.pieceLength
  alone : t.peers = [(p.id, p.seeder.bits)]
  whole : ∀ i < t.totalPieces, Bitfield.has p.seeder.bits i = true
  room : 0 < p.session.pipeline

inductive Phase (data : Bytes) (e : Exchange) :
    Dialogue → List BlockRequest → List BlockRequest → Prop where
  | fill : Phase data e .fill e.due e.asked
  | check (done : e.due = [] → e.transfer.isComplete = true) :
      Phase data e .checkComplete e.due e.asked
  | await (waits : e.due ≠ []) : Phase data e .awaitMessage e.due e.asked
  | deliver {r : BlockRequest} {queued : List BlockRequest} (due : e.due = r :: queued) :
      Phase data e (.deliver r.piece r.offset (e.transfer.blockOf data r)) queued e.asked
  | send {r : BlockRequest} {queued sent : List BlockRequest} (due : e.due = queued ++ [r])
      (asked : e.asked = sent ++ [r]) : Phase data e (.sendRequest r) queued sent

structure Serving (p : Party) (t : Transfer) (data : Bytes) (e : Exchange) (g : Dialogue)
    (x : Connection × Transfer) : Prop where
  fair : e.Fair t data
  sits : ∃ queued sent, Phase data e g queued sent ∧ p.Sits g e.transfer queued sent x

/-- Where a point of the dialogue stands in the round that a request or an answer makes. -/
def rank : Dialogue → Nat
  | .sendRequest _ => 4
  | .fill => 3
  | .checkComplete => 2
  | .awaitMessage => 1
  | _ => 0

/-- A bound on the steps to the end of a download with `total` blocks. -/
def stepsLeft (total : Nat) (e : Exchange) (g : Dialogue) : Nat :=
  10 * (total - e.asked.length) + 5 * e.due.length + rank g

def Closer (p : Party) (t : Transfer) (data : Bytes) (e : Exchange) (g : Dialogue)
    (x : Connection × Transfer) : Prop :=
  ∃ f g', Serving p t data f g' x ∧
    stepsLeft t.content.requests.length f g' < stepsLeft t.content.requests.length e g

namespace Party.Supplies

variable {p : Party} {t : Transfer} {data : Bytes} {e : Exchange} {g : Dialogue}
  {x : Connection × Transfer} {now : Nat}

theorem bitfield? (given : p.Supplies t data) : t.bitfield? p.id = some p.seeder.bits := by
  rw [Transfer.bitfield?, given.alone, List.lookup_cons_self]

theorem eq_of_isRegistered (given : p.Supplies t data) {peer : PeerId}
    (registered : t.isRegistered peer = true) : peer = p.id := by
  obtain ⟨entry, member, rfl⟩ := Transfer.isRegistered_iff.1 registered
  rw [given.alone, List.mem_singleton] at member
  rw [member]

theorem isRegistered (given : p.Supplies t data) (fair : e.Fair t data) :
    e.transfer.isRegistered p.id = true := by
  rw [Transfer.isRegistered_of_peers_eq fair.peers, Transfer.isRegistered, given.bitfield?]
  rfl

/-- When nothing is due and there is nothing to ask the seeder for, the download is complete. -/
theorem isComplete_of_idle (given : p.Supplies t data) (fair : e.Fair t data)
    (nothing : e.transfer.pick p.id now = (.ok none, e.transfer)) (due : e.due = []) :
    e.transfer.isComplete = true := by
  refine (fair.sound given.sound).isComplete_iff.2 (fair.all_finished given.sound due ?_ ?_)
  · exact fun i inside => ⟨p.id, _, given.bitfield?, given.whole i inside⟩
  · intro peer registered
    rw [given.eq_of_isRegistered registered]
    exact ⟨now, congrArg Prod.fst nothing⟩

/-! ### Single steps -/

theorem step_fill (given : p.Supplies t data) (fair : e.Fair t data)
    (young : ∀ o ∈ e.transfer.openRequests, now - o.issuedAt < e.transfer.requestTimeout)
    (sits : p.Sits .fill e.transfer e.due e.asked x) :
    Closer p t data e .fill (x.1.step now x.2) := by
  have registered := given.isRegistered fair
  have rests : (e.due.length < p.session.pipeline →
      e.transfer.pick p.id now = (.ok none, e.transfer)) →
      (e.due = [] → e.transfer.isComplete = true) →
      Closer p t data e .fill (x.1.step now x.2) := fun nothing done =>
    ⟨e, .checkComplete, ⟨fair, _, _, .check done, sits.rest nothing⟩, Nat.lt_succ_self _⟩
  by_cases free : e.due.length < p.session.pipeline
  · rcases (fair.sound given.sound).pick_of_young registered young with
      nothing | ⟨r, next, picked, -⟩
    · exact rests (fun _ => nothing) (given.isComplete_of_idle fair nothing)
    · have later := fair.ask given.sound registered young
      have count := (later.asked_subperm given.sound).length_le
      have asks := sits.ask free picked
      have same : e.ask p.id now = ⟨next, e.asked ++ [r], e.due ++ [r]⟩ := by
        simp only [Exchange.ask, picked, Exchange.handed]
      rw [same] at later count
      refine ⟨_, .sendRequest r, ⟨later, _, _, .send rfl rfl, asks⟩, ?_⟩
      -- One more request is due, but there is one less to make.
      simp only [stepsLeft, rank, List.length_append, List.length_singleton] at count ⊢
      omega
  · refine rests (fun room => absurd room free) fun due => ?_
    rw [due] at free
    exact absurd given.room free

theorem step_check (fair : e.Fair t data) (done : e.due = [] → e.transfer.isComplete = true)
    (sits : p.Sits .checkComplete e.transfer e.due e.asked x) :
    (e.transfer.isComplete = true ∧ p.Leaves e.transfer e.asked (x.1.step now x.2)) ∨
      Closer p t data e .checkComplete (x.1.step now x.2) := by
  cases complete : e.transfer.isComplete with
  | true => exact Or.inl ⟨rfl, sits.finish complete⟩
  | false =>
    refine Or.inr ⟨e, .awaitMessage, ⟨fair, _, _, .await ?_, sits.listen complete⟩,
      Nat.lt_succ_self _⟩
    intro due
    rw [done due] at complete
    cases complete

theorem step_await (given : p.Supplies t data) (fair : e.Fair t data) (waits : e.due ≠ [])
    (sits : p.Sits .awaitMessage e.transfer e.due e.asked x) :
    Closer p t data e .awaitMessage (x.1.step now x.2) := by
  obtain ⟨r, queued, due⟩ := List.exists_cons_of_ne_nil waits
  have unbroken := fair.sound given.sound
  have content := fair.content given.sound
  have out : r ∈ e.transfer.requests := by
    rw [← fair.due.mem_iff, due]
    exact List.mem_cons_self
  obtain ⟨o, member, rfl⟩ := List.mem_map.1 out
  have block := unbroken.hasBlock_of_out member
  have wf := unbroken.wellFormed
  have answer := Seeder.bring_eq wf block (given.pieces.trans (congrArg _ content.symm))
  have short : (e.transfer.blockOf data o.request).length ≤ blockSize := by
    rw [Transfer.length_blockOf wf (content ▸ given.describes) block, block.bounds.2.2.2]
    exact Nat.min_le_left _ _
  obtain ⟨piece, offset, -⟩ := wf.toNat_of_hasBlock block
  rw [given.content] at answer
  rw [due] at sits
  exact ⟨e, _, ⟨fair, _, _, .deliver due, sits.read answer piece offset short⟩,
    Nat.lt_succ_self _⟩

theorem step_deliver (given : p.Supplies t data) (fair : e.Fair t data) {r : BlockRequest}
    {queued : List BlockRequest} (due : e.due = r :: queued)
    (sits : p.Sits (.deliver r.piece r.offset (e.transfer.blockOf data r)) e.transfer queued
      e.asked x) :
    Closer p t data e (.deliver r.piece r.offset (e.transfer.blockOf data r))
      (x.1.step now x.2) := by
  have listed : r ∈ e.due := by
    rw [due]
    exact List.mem_cons_self
  have later := fair.answer given.sound given.saved given.describes listed
  have rest : (e.answer data r).due = queued := by
    rw [Exchange.answer, due, List.erase_cons_head]
  have taken := ((fair.sound given.sound).deliver_due (fair.full given.sound given.saved)
    (fair.content given.sound ▸ given.describes) fair.faithful (fair.due.mem_iff.1 listed) rfl).1
  have takes : ∃ outcome, e.transfer.deliver r.piece r.offset (e.transfer.blockOf data r) .smooth =
      (.ok outcome, (e.answer data r).transfer) :=
    taken.elim (fun stored => ⟨_, Prod.ext stored rfl⟩) fun verified => ⟨_, Prod.ext verified rfl⟩
  obtain ⟨outcome, delivered⟩ := takes
  have fills := sits.deliver delivered now
  rw [← rest] at fills
  refine ⟨_, .fill, ⟨later, _, _, .fill, fills⟩, ?_⟩
  rw [stepsLeft, rest, stepsLeft, due, List.length_cons]
  simp only [rank, Exchange.answer]
  omega

/-- While no request waits too long, a session has the whole file and leaves, or it comes closer to
that. -/
theorem step (given : p.Supplies t data) (serving : Serving p t data e g x)
    (young : ∀ o ∈ x.2.openRequests, now - o.issuedAt < t.requestTimeout) :
    (e.transfer.isComplete = true ∧ p.Leaves e.transfer e.asked (x.1.step now x.2)) ∨
      Closer p t data e g (x.1.step now x.2) := by
  obtain ⟨fair, queued, sent, phase, sits⟩ := serving
  obtain ⟨calls, after⟩ := fair.after
  have timeout : e.transfer.requestTimeout = t.requestTimeout := by
    rw [after]
    exact (given.sound.settings_after calls).2.2
  have transfer : x.2 = e.transfer := by
    obtain ⟨_, stands, -⟩ := sits
    exact stands.rests.1
  rw [transfer, ← timeout] at young
  cases phase with
  | fill => exact Or.inr (given.step_fill fair young sits)
  | check done => exact step_check fair done sits
  | await waits => exact Or.inr (given.step_await fair waits sits)
  | deliver due => exact Or.inr (given.step_deliver fair due sits)
  | send due asked =>
    have fills := sits.send now
    rw [← due, ← asked] at fills
    exact Or.inr ⟨e, .fill, ⟨fair, _, _, .fill, fills⟩, Nat.lt_succ_self _⟩

/-! ### Whole runs -/

theorem exists_leaves (given : p.Supplies t data) (clock : Nat → Nat)
    (serving : Serving p t data e g x)
    (young : ∀ n, ∀ o ∈ (Connection.after clock x n).2.openRequests,
      clock n - o.issuedAt < t.requestTimeout) :
    ∃ n f, Exchange.Fair t data f ∧ f.transfer.isComplete = true ∧
      p.Leaves f.transfer f.asked (Connection.after clock x n) := by
  -- By induction on the bound on what is left to do, which each step lowers.
  induction left : stepsLeft t.content.requests.length e g using Nat.strong_induction_on
    generalizing clock e g x with
  | _ left' ih =>
    rcases given.step serving (young 0) with ⟨complete, leaves⟩ | ⟨f, g', next, closer⟩
    · exact ⟨1, e, serving.fair, complete, leaves⟩
    · obtain ⟨n, last, reached⟩ := ih _ (left ▸ closer) (fun k => clock (k + 1)) next
        (fun k => by simpa only [← Connection.after_succ] using young (k + 1)) rfl
      refine ⟨n + 1, last, ?_⟩
      rwa [Connection.after_succ]

theorem ends (given : p.Supplies t data) (clock : Nat → Nat) (serving : Serving p t data e g x)
    (young : ∀ n, ∀ o ∈ (Connection.after clock x n).2.openRequests,
      clock n - o.issuedAt < t.requestTimeout) :
    ∃ (n : Nat) (asked : List BlockRequest),
      (Connection.after clock x n).1.session.result? = some (.ok ()) ∧
      (Connection.after clock x n).2.isComplete = true ∧
      (Connection.after clock x n).2.peers = [] ∧
      (Connection.after clock x n).2.file.content = data ∧ asked.Perm t.content.requests ∧
      (Connection.after clock x n).1.written =
        p.greeting ++ asked.map fun r => (Session.requestMessage r).frame := by
  obtain ⟨n, f, fair, complete, leaves⟩ := given.exists_leaves clock serving young
  obtain ⟨ended, transfer, written⟩ := leaves.ends (clock n)
  have all := (fair.sound given.sound).isComplete_iff.1 complete
  have gone : (f.transfer.unregister p.id).2 = { f.transfer with peers := [] } := by
    rw [Transfer.unregister, if_pos (Or.inl complete), fair.peers, given.alone]
    simp
  refine ⟨n + 1, f.asked, ended, ?_, ?_, ?_, fair.asked_perm given.sound all, written⟩
  all_goals
    rw [Connection.after, transfer, gone]
  · exact complete
  · exact fair.content_eq given.sound given.saved given.describes all

end Party.Supplies

/-! ### Fresh downloads -/

section Fresh

variable {c : Content} {data bits : Bytes} {remote : PeerId} {maxPeers requestTimeout : Nat}
  {file : OutputFile}

theorem pieceCount_le_of_whole (whole : ∀ i < c.pieceCount, Bitfield.has bits i = true)
    (fits : (Message.bitfield bits).length ≤ maxFrameLength) : c.pieceCount ≤ UInt32.size := by
  by_contra many
  have last := Bitfield.lt_of_has (whole (c.pieceCount - 1) (by omega))
  have frame : 1 + bits.length ≤ 4 * 1024 * 1024 := fits
  have size : UInt32.size = 4294967296 := rfl
  omega

theorem register_start (free : 0 < maxPeers) :
    let t := Transfer.start c maxPeers requestTimeout file
    let u := t.after [.register remote bits]
    t.register remote bits = (true, u) ∧ u.peers = [(remote, bits)] ∧ u.finished = [] := by
  intro t u
  have room : ¬ maxPeers ≤ 0 := Nat.not_le_of_lt free
  have taken : t.register remote bits = (true, { t with peers := [(remote, bits)] }) := by
    simp only [t, Transfer.register, Transfer.start, List.length_nil, room, and_false, if_false]
    rfl
  have after : u = { t with peers := [(remote, bits)] } := congrArg Prod.snd taken
  rw [after]
  exact ⟨taken, rfl, rfl⟩

theorem Party.supplies_start {p : Party} (wf : c.WellFormed) (full : file.length = c.length)
    (describes : c.Describes data) (content : p.seeder.content = data)
    (pieces : p.seeder.pieceLength = c.pieceLength)
    (whole : ∀ i < c.pieceCount, Bitfield.has p.seeder.bits i = true)
    (room : 0 < p.session.pipeline) (free : 0 < maxPeers) :
    p.Supplies ((Transfer.start c maxPeers requestTimeout file).after
      [.register p.id p.seeder.bits]) data := by
  have empty := Transfer.Sound.start wf maxPeers requestTimeout file
  have same := (empty.settings_after [.register p.id p.seeder.bits]).1
  constructor
  case sound => exact empty.after _
  case saved => exact (empty.after_saved (Transfer.saved_start maxPeers requestTimeout full) _).1
  case describes => exact same ▸ describes
  case content => exact content
  case pieces => exact same ▸ pieces
  case alone => exact (register_start free).2.1
  case whole => exact fun i inside => whole i (inside.trans_eq (congrArg Content.pieceCount same))
  case room => exact room

theorem isComplete_start (wf : c.WellFormed) (free : 0 < maxPeers) :
    ((Transfer.start c maxPeers requestTimeout file).after
      [.register remote bits]).isComplete = false := by
  have sound := Transfer.sound_after wf maxPeers requestTimeout file [.register remote bits]
  refine Bool.eq_false_iff.2 fun complete => ?_
  have done := sound.isComplete_iff.1 complete 0 sound.wellFormed.pieceCount_pos
  rw [(register_start free).2.2] at done
  cases done

end Fresh

/-- A session with a seeder that has all pieces and answers each request in order downloads the
whole file, however many requests may be out at a time, if no request waits too long: it ends well,
the file is the data, nobody is left registered, and after handshake and interest it has written one
request for each block and nothing else. -/
theorem seeder_completes (name : String) {pieceLength : Nat} {data bits : Bytes}
    (filled : data ≠ []) (positive : 0 < pieceLength) (limit : pieceLength ≤ maxPieceLength)
    (fits : (Message.bitfield bits).length ≤ maxFrameLength) {tree : Tree} {path : String}
    {file : OutputFile} (created : OutputFile.create tree path data.length = .ok file)
    (maxPeers pipeline requestTimeout : Nat) (free : 0 < maxPeers) (room : 0 < pipeline)
    (peer : Peer) (infoHash : Digest) (ownId remote : PeerId) (readTimeout : Duration)
    (ending : Ending) (clock : Nat → Nat) :
    let c := Content.ofData name pieceLength data
    let s := (Session.new peer infoHash ownId pipeline readTimeout).start
    let d := Seeder.honest infoHash remote bits pieceLength data
    let x := Connection.after clock
      (⟨s, .seeding d ending⟩, Transfer.start c maxPeers requestTimeout file)
    (∀ i < c.pieceCount, Bitfield.has bits i = true) →
      (∀ n, ∀ o ∈ (x n).2.openRequests, clock n - o.issuedAt < requestTimeout) →
      ∃ (n : Nat) (asked : List BlockRequest), (x n).1.session.result? = some (.ok ()) ∧
        (x n).2.isComplete = true ∧ (x n).2.peers = [] ∧ (x n).2.file.content = data ∧
        asked.Perm c.requests ∧
        (x n).1.written = [(Handshake.plain infoHash ownId).encode, Message.interested.frame] ++
          asked.map fun r => (Session.requestMessage r).frame := by
  intro c s d x whole young
  obtain ⟨earlier, rfl⟩ := OutputFile.exists_ofContent_of_create created
  let first := Transfer.start c maxPeers requestTimeout (.ofContent path data.length earlier)
  let t := first.after [.register remote bits]
  have wf : c.WellFormed :=
    Content.wellFormed_ofData filled positive limit (pieceCount_le_of_whole whole fits)
  obtain ⟨content, -, timeout⟩ : t.content = c ∧ t.maxPeers = maxPeers ∧
      t.requestTimeout = requestTimeout :=
    (Transfer.Sound.start wf maxPeers requestTimeout _).settings_after _
  have willing : d.met.Willing := ⟨rfl, rfl, rfl⟩
  have given : (Party.of s d ending willing).Supplies t data := Party.supplies_start wf rfl
    (Content.describes_ofData positive) rfl rfl whole room free
  -- Handshake, pieces, interest: nothing is due yet, and nothing was asked for.
  obtain ⟨m, sits, -⟩ := leads_fill peer ownId pipeline readTimeout rfl willing ending
    (register_start free).1 fits (isComplete_start wf free) clock
  have begins : Serving _ t data (Exchange.start t) .fill (x m) :=
    ⟨Exchange.fair_registered wf maxPeers requestTimeout _ [(remote, bits)], [], [], .fill, sits⟩
  obtain ⟨n, asked, ends⟩ := given.ends (fun k => clock (m + k)) begins fun k => by
    rw [← Connection.after_add, timeout]
    exact young (m + k)
  rw [← Connection.after_add, content] at ends
  exact ⟨m + n, asked, ends⟩

namespace Seeding.Sample

def file : OutputFile := .ofContent "out" 3 [9, 9, 9, 9]

def session : Session :=
  .new ⟨⟨.v4 ⟨10, 0, 0, 1⟩, 6881, 0⟩, none⟩ (Fixed.fill 20 17) (Fixed.fill 20 5) 1 (.ofSeconds 120)

def seeder : Seeder := .honest (Fixed.fill 20 17) (Fixed.fill 20 1) [192] 2 [1, 2, 3]

theorem whole : ∀ i < Transfer.Sample.content.pieceCount, Bitfield.has [192] i = true := by
  decide +kernel

end Seeding.Sample

/-- A read that finds nothing would wait for good. -/
theorem seeder_completes_sample :
    let x := Connection.after (fun n => min n 500)
      (⟨Seeding.Sample.session.start, .seeding Seeding.Sample.seeder .hangs⟩,
        .start Transfer.Sample.content 4 1000 Seeding.Sample.file)
    (∀ i < Transfer.Sample.content.pieceCount, Bitfield.has [192] i = true) ∧
      (∀ n, ∀ o ∈ (x n).2.openRequests, min n 500 - o.issuedAt < 1000) ∧
      ∃ n, (x n).1.session.result? = some (.ok ()) ∧ (x n).2.isComplete = true ∧
        (x n).2.peers = [] ∧ (x n).2.file.content = [1, 2, 3] ∧ (x n).1.written.length = 4 := by
  intro x
  have young : ∀ n, ∀ o ∈ (x n).2.openRequests, min n 500 - o.issuedAt < 1000 := by
    intro n o _
    omega
  obtain ⟨n, asked, ended, complete, gone, content, each, written⟩ :=
    @seeder_completes "sample" 2 [1, 2, 3] [192] (by simp) (by decide) (by decide) (by decide) _ _ _
      Transfer.Sample.created 4 1 1000 (by decide) (by decide) ⟨⟨.v4 ⟨10, 0, 0, 1⟩, 6881, 0⟩, none⟩
      (Fixed.fill 20 17) (Fixed.fill 20 5) (Fixed.fill 20 1) (.ofSeconds 120) .hangs
      (fun n => min n 500) Seeding.Sample.whole young
  refine ⟨Seeding.Sample.whole, young, n, ended, complete, gone, content, ?_⟩
  have blocks : asked.length = 2 := each.length_eq.trans (by decide +kernel)
  rw [show (x n).1.written = _ from written, List.length_append, List.length_map, blocks]
  rfl

end Swarm.Scenario
