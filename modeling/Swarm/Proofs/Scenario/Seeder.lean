import Swarm.Proofs.Scenario.Opening
import Swarm.Proofs.Transfer.Blocks
import Swarm.Scenario.Feed

/-!
A session and a peer that answers each request with the block asked for. What the peer has yet to be
read is a queue of such blocks, in the order of the requests, and each step of the session takes
from its front or adds to its end.
-/

namespace Swarm.Scenario

def Seeder.honest (infoHash : Digest) (peerId : PeerId) (bits : Bytes) (pieceLength : Nat)
    (content : Bytes) : Seeder :=
  ⟨infoHash, peerId, bits, 0, none, pieceLength, content, false⟩

def Remote.seeding (seeder : Seeder) (ending : Ending) : Remote :=
  ⟨[], ending, some seeder, none, 0, []⟩

namespace Seeder

structure Willing (d : Seeder) : Prop where
  greeted : d.greeted = true
  corrupt : d.corrupt = 0
  limit : d.limit = none

def bring (d : Seeder) (r : BlockRequest) : Message :=
  d.pieceMessage (UInt32.ofNat r.piece) (UInt32.ofNat r.offset) (UInt32.ofNat r.length)

def answers (d : Seeder) (requests : List BlockRequest) : Bytes :=
  (requests.map fun r => (d.bring r).frame).flatten

variable {d : Seeder}

theorem answers_append (d : Seeder) (requests : List BlockRequest) (r : BlockRequest) :
    d.answers (requests ++ [r]) = d.answers requests ++ (d.bring r).frame := by
  simp only [answers, List.map_append, List.flatten_append, List.map_singleton,
    List.flatten_singleton]

theorem Willing.answer_interested (willing : d.Willing) :
    d.answer Message.interested.frame = (Message.unchoke.frame, d) := by
  simp only [answer, willing.greeted, if_true,
    Message.ofFrame_frame (m := .interested) (by decide), reply]

theorem Willing.answer_request (willing : d.Willing) (r : BlockRequest) :
    d.answer (Session.requestMessage r).frame = ((d.bring r).frame, d) := by
  have fits : (Session.requestMessage r).length < UInt32.size := (by decide : 13 < UInt32.size)
  have read := Message.ofFrame_frame fits
  rw [Session.requestMessage] at read ⊢
  obtain ⟨greeted, corrupt, limit⟩ := willing
  obtain ⟨_, _, _, _, _, _, _, _⟩ := d
  cases greeted
  cases corrupt
  cases limit
  simp only [answer, if_true, read, reply, reduceCtorEq, if_false, Nat.lt_irrefl, bring]
  rfl

/-- A request for a block of a content that has the pieces of the seeder's is answered with the
octets that the request is for. -/
theorem bring_eq {t : Transfer} (wf : t.content.WellFormed) {r : BlockRequest}
    (block : t.content.HasBlock r) (pieces : d.pieceLength = t.content.pieceLength) :
    d.bring r = .piece (UInt32.ofNat r.piece) (UInt32.ofNat r.offset) (t.blockOf d.content r) := by
  obtain ⟨piece, offset, length⟩ := wf.toNat_of_hasBlock block
  rw [bring, pieceMessage, Seeder.block, piece, offset, length, pieces]
  rfl

end Seeder

namespace Connection

variable {s : Session} {r : Remote} {t : Transfer} {b : Bytes} {x : Connection × Transfer}

theorem Stands.send_to {d : Seeder} (stands : Stands s r t b x) {octets : Bytes}
    (want : s.want = .send octets) (room : r.room = none) (seeder : r.seeder = some d)
    (now : Nat) :
    ∃ n, Stands (s.sent none)
      { r with writes := (n, octets) :: r.writes, seeder := some (d.answer octets).2 } t
      (b ++ (d.answer octets).1) (x.1.step now x.2) := by
  obtain ⟨rfl, rfl, chunks, count, same, stream⟩ := stands
  have sent : x.1.remote.write octets = (none, { x.1.remote with
      writes := (count, octets) :: r.writes
      seeder := some (d.answer octets).2
      inbox := (chunks ++ [(d.answer octets).1]).map .octets }) := by
    rw [show x.1.remote = _ from same]
    simp only [Remote.write, room, seeder, Option.any_none, Bool.false_eq_true, if_false,
      Option.map_none, List.map_append, List.map_singleton]
  refine ⟨count, ?_⟩
  rw [step_send want, sent]
  refine ⟨rfl, rfl, chunks ++ [(d.answer octets).1], count, ?_, ?_⟩
  · dsimp only
    rw [show x.1.remote = _ from same]
  · rw [List.flatten_append, stream, List.flatten_singleton]

end Connection

structure Party where
  session : Session
  remote : Remote
  seeder : Seeder
  id : PeerId
  greeting : List Bytes
  room : remote.room = none
  meets : remote.seeder = some seeder
  willing : seeder.Willing

namespace Party

def during (p : Party) (g : Dialogue) (out : Nat) : Session :=
  { p.session with stage := .dialogue p.id g, choked := false, inFlight := out }

def Sits (p : Party) (g : Dialogue) (u : Transfer) (queued sent : List BlockRequest)
    (x : Connection × Transfer) : Prop :=
  ∃ writes, Connection.Stands (p.during g queued.length) { p.remote with writes := writes } u
      (p.seeder.answers queued) x ∧
    writes.reverse.map Prod.snd = p.greeting ++ sent.map fun r => (Session.requestMessage r).frame

variable {p : Party} {u v : Transfer} {queued sent : List BlockRequest} {r : BlockRequest}
  {x : Connection × Transfer} {now : Nat}

namespace Sits

theorem turn {g g' : Dialogue} (sits : p.Sits g u queued sent x)
    (want : (p.during g queued.length).want = .transfer)
    (turned : (p.during g queued.length).turn u now .smooth = (p.during g' queued.length, v)) :
    p.Sits g' v queued sent (x.1.step now x.2) := by
  obtain ⟨writes, stands, written⟩ := sits
  have next := stands.turn want now
  rw [turned] at next
  exact ⟨writes, next, written⟩

theorem rest (sits : p.Sits .fill u queued sent x)
    (nothing : queued.length < p.session.pipeline → u.pick p.id now = (.ok none, u)) :
    p.Sits .checkComplete u queued sent (x.1.step now x.2) := by
  refine sits.turn rfl ?_
  by_cases free : queued.length < p.session.pipeline
  · simp only [during, Session.turn, Session.mayRequest, Bool.not_false, Bool.true_and, free,
      decide_true, if_true, nothing free, Session.go]
  · simp only [during, Session.turn, Session.mayRequest, Bool.not_false, Bool.true_and, free,
      decide_false, Bool.false_eq_true, if_false, Session.go]

theorem ask (sits : p.Sits .fill u queued sent x) (free : queued.length < p.session.pipeline)
    (picked : u.pick p.id now = (.ok (some r), v)) :
    p.Sits (.sendRequest r) v queued sent (x.1.step now x.2) := by
  refine sits.turn rfl ?_
  simp only [during, Session.turn, Session.mayRequest, Bool.not_false, Bool.true_and, free,
    decide_true, if_true, picked, Session.go]

theorem listen (sits : p.Sits .checkComplete u queued sent x) (incomplete : u.isComplete = false) :
    p.Sits .awaitMessage u queued sent (x.1.step now x.2) := by
  refine sits.turn rfl ?_
  simp only [during, Session.turn, incomplete, Bool.false_eq_true, if_false, Session.go]

theorem deliver {i offset : Nat} {block : Bytes} {outcome : Delivery}
    (sits : p.Sits (.deliver i offset block) u queued sent x)
    (delivered : u.deliver i offset block .smooth = (.ok outcome, v)) (now : Nat) :
    p.Sits .fill v queued sent (x.1.step now x.2) := by
  refine sits.turn rfl ?_
  simp only [during, Session.turn, delivered, Session.proceed, Session.go]

theorem send (sits : p.Sits (.sendRequest r) u queued sent x) (now : Nat) :
    p.Sits .fill u (queued ++ [r]) (sent ++ [r]) (x.1.step now x.2) := by
  obtain ⟨writes, stands, written⟩ := sits
  obtain ⟨n, next⟩ := stands.send_to rfl p.room p.meets now
  rw [p.willing.answer_request, ← p.seeder.answers_append] at next
  refine ⟨(n, (Session.requestMessage r).frame) :: writes, ?_, ?_⟩
  · rw [List.length_append, List.length_singleton]
    rw [← p.meets] at next
    exact next
  · rw [List.reverse_cons, List.map_append, written, List.map_append, List.append_assoc]
    rfl

theorem read {block : Bytes} (sits : p.Sits .awaitMessage u (r :: queued) sent x)
    (answer : p.seeder.bring r = .piece (UInt32.ofNat r.piece) (UInt32.ofNat r.offset) block)
    (piece : (UInt32.ofNat r.piece).toNat = r.piece)
    (offset : (UInt32.ofNat r.offset).toNat = r.offset)
    (short : block.length ≤ blockSize) :
    p.Sits (.deliver r.piece r.offset block) u queued sent (x.1.step now x.2) := by
  obtain ⟨writes, stands, written⟩ := sits
  have ahead := stands.ahead
  rw [Seeder.answers, List.map_cons, List.flatten_cons] at ahead
  have fits : (p.seeder.bring r).length ≤ maxFrameLength := by
    rw [answer]
    exact Nat.le_trans (Nat.add_le_add_left short 9) (by decide)
  obtain ⟨y, came, left⟩ := (Remote.serves _ u).message_frame fits ahead
  have next := stands.received rfl came left now
  refine ⟨writes, ?_, written⟩
  rw [answer] at next
  simp only [during, Session.received, Session.told, List.length_cons, Nat.add_sub_cancel, piece,
    offset] at next
  exact next

end Sits

def Leaves (p : Party) (u : Transfer) (sent : List BlockRequest) (x : Connection × Transfer) :
    Prop :=
  ∃ out b writes, Connection.Stands { p.during .fill out with stage := .leave p.id (.ok ()) }
      { p.remote with writes := writes } u b x ∧
    writes.reverse.map Prod.snd = p.greeting ++ sent.map fun r => (Session.requestMessage r).frame

theorem Sits.finish (sits : p.Sits .checkComplete u queued sent x)
    (complete : u.isComplete = true) : p.Leaves u sent (x.1.step now x.2) := by
  obtain ⟨writes, stands, written⟩ := sits
  have next := stands.turn rfl now
  simp only [during, Session.turn, complete, if_true, Session.finish, Session.isRegistered,
    Dialogue.isRegistered] at next
  exact ⟨queued.length, _, writes, next, written⟩

theorem Leaves.ends (leaves : p.Leaves u sent x) (now : Nat) :
    (x.1.step now x.2).1.session.result? = some (.ok ()) ∧
      (x.1.step now x.2).2 = (u.unregister p.id).2 ∧ (x.1.step now x.2).1.written =
        p.greeting ++ sent.map fun r => (Session.requestMessage r).frame := by
  obtain ⟨out, b, writes, stands, written⟩ := leaves
  have next := stands.turn rfl now
  refine ⟨?_, next.rests.1, next.rests.2.trans written⟩
  rw [next.session]
  rfl

end Party

/-! ### Until requests are taken -/

section Greeting

variable {d : Seeder} {t : Transfer} {now : Nat}

def Seeder.met (d : Seeder) : Seeder := { d with greeted := true }

def Party.of (s : Session) (d : Seeder) (ending : Ending) (willing : d.met.Willing) : Party where
  session := s
  remote := .seeding d.met ending
  seeder := d.met
  id := d.peerId
  greeting := [(Handshake.plain s.infoHash s.ownId).encode, Message.interested.frame]
  room := rfl
  meets := rfl
  willing := willing

theorem leads_fill_of_registered {s : Session} {r : Remote} {d : Seeder} {remote : PeerId}
    {u : Transfer} {x : Connection × Transfer} (room : r.room = none) (seeder : r.seeder = some d)
    (willing : d.Willing) (incomplete : u.isComplete = false)
    (stands : Connection.Stands (s.go remote .sendInterested) r u [] x) :
    Connection.Leads (fun _ => True) (fun y => ∃ n, Connection.Stands
      { s with stage := .dialogue remote .fill, choked := false }
      { r with writes := (n, Message.interested.frame) :: r.writes } u [] y) x := by
  refine .step trivial fun now => .step trivial fun later => .step trivial fun last => .here ?_
  obtain ⟨n, told⟩ := stands.send_to rfl room seeder now
  rw [willing.answer_interested, ← seeder] at told
  have listens := told.turn rfl later
  simp only [Session.turn, Session.sent, Session.go, incomplete, Bool.false_eq_true,
    if_false] at listens
  have ahead := listens.ahead
  rw [List.nil_append, ← List.append_nil Message.unchoke.frame] at ahead
  obtain ⟨y, came, left⟩ := (Remote.serves _ u).message_frame (by decide) ahead
  exact ⟨n, listens.received rfl came left last⟩

/-- A session comes to ask its first request of a seeder that the download takes. -/
theorem leads_fill (peer : Peer) (ownId : PeerId) (pipeline : Nat) (readTimeout : Duration)
    {d : Seeder} (new : d.greeted = false) (willing : d.met.Willing) (ending : Ending)
    {t u : Transfer} (accepted : t.register d.peerId d.bits = (true, u))
    (fits : (Message.bitfield d.bits).length ≤ maxFrameLength) (incomplete : u.isComplete = false) :
    let s := (Session.new peer d.infoHash ownId pipeline readTimeout).start
    Connection.Leads (fun _ => True) ((Party.of s d ending willing).Sits .fill u [] [])
      (⟨s, .seeding d ending⟩, t) := by
  intro s
  have begins : Connection.Stands s (.seeding d ending) t [] (⟨s, .seeding d ending⟩, t) :=
    ⟨rfl, rfl, [], 0, rfl, rfl⟩
  have answer : d.answer (Handshake.plain s.infoHash s.ownId).encode =
      ((Handshake.plain d.infoHash d.peerId).encode ++ ((Message.bitfield d.bits).frame ++ []),
        d.met) := by
    simp only [Seeder.answer, new, Bool.false_eq_true, if_false, List.append_nil, Seeder.met]
  refine .step trivial fun now => ?_
  obtain ⟨n, greeted⟩ := begins.send_to rfl rfl rfl now
  rw [answer, List.nil_append] at greeted
  have registers := Connection.leads_register rfl (.now fits) rfl greeted
  refine (registers.mono (fun _ _ => trivial) fun _ => id).trans fun y stands => ?_
  refine .step trivial fun later => ?_
  have taken := stands.turn rfl later
  rw [Connection.turn_of_accepted rfl accepted] at taken
  refine (leads_fill_of_registered rfl rfl willing incomplete taken).mono (fun _ => id) ?_
  rintro z ⟨m, sits⟩
  exact ⟨_, sits, rfl⟩

end Greeting

end Swarm.Scenario
