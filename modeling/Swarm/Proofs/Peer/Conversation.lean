import Mathlib.Data.List.Basic
import Swarm.Proofs.Peer.Sharing
import Swarm.Proofs.Transfer.Calls

/-!
What one session and its peer say to each other, while others use the same download.

The steps of the session and the calls that others make come in any order, and nothing is assumed of
the peer, of the connection or of the disk. What goes over the connection is kept in a log. What a
single step can do is said once (`Session.Step`); what holds of whole conversations is proved from
it.
-/

namespace Swarm

open Storage (DiskOutcome)

inductive Traffic where
  | wrote (octets : Bytes)
  | read (m : Message)
deriving DecidableEq

namespace Session

def traffic (s : Session) : Happening → List Traffic
  | .sent none =>
    match s.want with
    | .send octets => [.wrote octets]
    | _ => []
  | .received (.ok m) => if s.want = .message then [.read m] else []
  | _ => []

/-- How the session will have ended once its registration is ended too, if that is known. -/
def verdict? (s : Session) : Option (Except SessionError Unit) :=
  match s.stage with
  | .leave _ result | .ended _ result => some result
  | _ => none

end Session

def MessageKind.isServed : MessageKind → Bool
  | keepAlive | choke | unchoke | .have | piece => true
  | _ => false

structure Conversation where
  session : Session
  transfer : Transfer
  log : List Traffic

inductive Move where
  | own (h : Session.Happening)
  | other (call : Transfer.Call)

namespace Conversation

def start (s : Session) (t : Transfer) : Conversation := ⟨s, t, []⟩

def step (g : Conversation) : Move → Conversation
  | .own h =>
    ⟨(g.session.step g.transfer h).1, (g.session.step g.transfer h).2,
      g.log ++ g.session.traffic h⟩
  | .other call => { g with transfer := (g.transfer.call call).2 }

def run (g : Conversation) (moves : List Move) : Conversation := moves.foldl step g

theorem run_induction {P : Conversation → Prop} {g : Conversation} (moves : List Move)
    (kept : ∀ move ∈ moves, ∀ g, P g → P (g.step move)) (holds : P g) : P (g.run moves) := by
  induction moves generalizing g with
  | nil => exact holds
  | cons move rest ih =>
    exact ih (fun later member => kept later (List.mem_cons_of_mem _ member))
      (kept move List.mem_cons_self g holds)

end Conversation

/-! ### What a step can do -/

namespace Session

inductive Step (s : Session) (t : Transfer) : List Traffic → Session → Transfer → Prop where
  | passes : Step s t [] s t
  | begins (stage : s.stage = .idle) : Step s t [] { s with stage := .sendHandshake } t
  | greets (stage : s.stage = .sendHandshake) :
      Step s t [.wrote (Handshake.plain s.infoHash s.ownId).encode]
        { s with stage := .awaitHandshake } t
  | meets {remote : PeerId} (stage : s.stage = .awaitHandshake) :
      Step s t [] (s.go remote .awaitBitfield) t
  | waits {remote : PeerId} (stage : s.stage = .dialogue remote .awaitBitfield) :
      Step s t [.read .keepAlive] s t
  | learns {remote : PeerId} {bits : Bytes} (stage : s.stage = .dialogue remote .awaitBitfield) :
      Step s t [.read (.bitfield bits)] (s.go remote (.register bits)) t
  | ends {remote : Option PeerId} {result : Except SessionError Unit} {passed : List Traffic}
      (unregistered : s.isRegistered = false) (going : s.verdict? = none)
      (heard : passed = [] ∨ ∃ m, passed = [.read m]) :
      Step s t passed { s with stage := .ended remote result } t
  | registers {remote : PeerId} {bits : Bytes} {next : Transfer}
      (stage : s.stage = .dialogue remote (.register bits))
      (accepted : t.register remote bits = (true, next)) :
      Step s t [] (s.go remote .sendInterested) next
  | declares {remote : PeerId} (stage : s.stage = .dialogue remote .sendInterested) :
      Step s t [.wrote Message.interested.frame] (s.go remote .checkComplete) t
  | listens {remote : PeerId} (stage : s.stage = .dialogue remote .checkComplete)
      (incomplete : t.isComplete = false) : Step s t [] (s.go remote .awaitMessage) t
  | alive {remote : PeerId} (stage : s.stage = .dialogue remote .awaitMessage) :
      Step s t [.read .keepAlive] (s.go remote .fill) t
  | choked {remote : PeerId} (stage : s.stage = .dialogue remote .awaitMessage) :
      Step s t [.read .choke]
        { s with stage := .dialogue remote .fill, choked := true, inFlight := 0 } t
  | unchoked {remote : PeerId} (stage : s.stage = .dialogue remote .awaitMessage) :
      Step s t [.read .unchoke] { s with stage := .dialogue remote .fill, choked := false } t
  | announced {remote : PeerId} {i : UInt32} (stage : s.stage = .dialogue remote .awaitMessage) :
      Step s t [.read (.have i)] (s.go remote (.addPiece i.toNat)) t
  | brought {remote : PeerId} {i start : UInt32} {block : Bytes}
      (stage : s.stage = .dialogue remote .awaitMessage) :
      Step s t [.read (.piece i start block)]
        { s with
          stage := .dialogue remote (.deliver i.toNat start.toNat block)
          inFlight := s.inFlight - 1 } t
  | protests {remote : PeerId} {m : Message} (stage : s.stage = .dialogue remote .awaitMessage)
      (unserved : m.kind.isServed = false) :
      Step s t [.read m]
        { s with stage := .leave remote (.error (.wire (.unsupported m.kind))) } t
  | adds {remote : PeerId} {i : Nat} {next : Transfer}
      (stage : s.stage = .dialogue remote (.addPiece i))
      (added : t.addPiece remote i = (.ok (), next)) : Step s t [] (s.go remote .fill) next
  | delivers {remote : PeerId} {i offset : Nat} {block : Bytes}
      (stage : s.stage = .dialogue remote (.deliver i offset block)) (disk : DiskOutcome) :
      Step s t [] (s.go remote .fill) (t.deliver i offset block disk).2
  | rests {remote : PeerId} {next : Transfer} (stage : s.stage = .dialogue remote .fill)
      (from_ : next = t ∨ ∃ now, next = (t.pick remote now).2) :
      Step s t [] (s.go remote .checkComplete) next
  | asks {remote : PeerId} {now : Nat} {r : BlockRequest} {next : Transfer}
      (stage : s.stage = .dialogue remote .fill) (free : s.mayRequest = true)
      (picked : t.pick remote now = (.ok (some r), next)) :
      Step s t [] (s.go remote (.sendRequest r)) next
  | asked {remote : PeerId} {r : BlockRequest}
      (stage : s.stage = .dialogue remote (.sendRequest r)) :
      Step s t [.wrote (requestMessage r).frame]
        { s with stage := .dialogue remote .fill, inFlight := s.inFlight + 1 } t
  | quits {remote : PeerId} {d : Dialogue} {result : Except SessionError Unit} {next : Transfer}
      (stage : s.stage = .dialogue remote d) (registered : d.isRegistered = true)
      (from_ : next = t ∨ ∃ call, next = (t.call call).2) :
      Step s t [] { s with stage := .leave remote result } next
  | leaves {remote : PeerId} {result : Except SessionError Unit}
      (stage : s.stage = .leave remote result) :
      Step s t [] { s with stage := .ended (some remote) result } (t.unregister remote).2

variable {s : Session} {t : Transfer} {remote : PeerId}

theorem Step.quit {d : Dialogue} {next : Transfer} (stage : s.stage = .dialogue remote d)
    (registered : d.isRegistered = true) (result : Except SessionError Unit)
    (from_ : next = t ∨ ∃ call, next = (t.call call).2) :
    Step s t [] (s.finish remote result) next := by
  rw [finish_of_registered stage registered]
  exact .quits stage registered from_

theorem Step.end_ {d : Dialogue} (stage : s.stage = .dialogue remote d)
    (unregistered : d.isRegistered = false) (result : Except SessionError Unit)
    {passed : List Traffic} (heard : passed = [] ∨ ∃ m, passed = [.read m]) :
    Step s t passed (s.finish remote result) t := by
  have free : s.isRegistered = false := by rwa [isRegistered, stage]
  have going : s.verdict? = none := by rw [verdict?, stage]
  rw [finish_of_unregistered stage unregistered]
  exact .ends free going heard

theorem Step.give_up (stage : s.stage = .sendHandshake ∨ s.stage = .awaitHandshake)
    (e : SessionError) : Step s t [] (s.giveUp e) t := by
  refine .ends ?_ ?_ (.inl rfl)
  · rcases stage with stage | stage <;> rw [isRegistered, stage]
  · rcases stage with stage | stage <;> rw [verdict?, stage]

theorem start_step (s : Session) (t : Transfer) : Step s t [] s.start t := by
  unfold start
  split
  next stage => exact .begins stage
  next => exact .passes

theorem sent_step (s : Session) (t : Transfer) (failure : Option SystemError) :
    Step s t (s.traffic (.sent failure)) (s.sent failure) t := by
  cases stage : s.stage with
  | sendHandshake =>
    simp only [sent, stage, traffic, want]
    cases failure with
    | none => exact .greets stage
    | some e => exact Step.give_up (.inl stage) _
  | dialogue remote d =>
    cases d with
    | sendInterested =>
      simp only [sent, stage, traffic, want]
      cases failure with
      | none => exact .declares stage
      | some e => exact Step.quit stage rfl _ (.inl rfl)
    | sendRequest r =>
      simp only [sent, stage, traffic, want]
      cases failure with
      | none => exact .asked stage
      | some e => exact Step.quit stage rfl _ (.inl rfl)
    | _ =>
      simp only [sent, stage, traffic, want]
      cases failure <;> exact .passes
  | _ =>
    simp only [sent, stage, traffic, want]
    cases failure <;> exact .passes

theorem greeted_step (s : Session) (t : Transfer) (reply : Except HandshakeFault Handshake) :
    Step s t [] (s.greeted reply) t := by
  unfold greeted
  split
  next stage =>
    split
    next => exact Step.give_up (.inr stage) _
    next => exact Step.give_up (.inr stage) _
    next =>
      split
      next => exact Step.give_up (.inr stage) _
      next => exact .meets stage
  next => exact .passes

theorem opened_step (stage : s.stage = .dialogue remote .awaitBitfield) (t : Transfer)
    (m : Message) : Step s t [.read m] (s.opened remote m) t := by
  have rejects (result : Except SessionError Unit) :
      Step s t [.read m] (s.finish remote result) t :=
    Step.end_ stage rfl result (.inr ⟨m, rfl⟩)
  cases m with
  | keepAlive => exact .waits stage
  | bitfield bits => exact .learns stage
  | _ => exact rejects _

theorem told_step (stage : s.stage = .dialogue remote .awaitMessage) (t : Transfer) (m : Message) :
    Step s t [.read m] (s.told remote m) t := by
  have protests (unserved : m.kind.isServed = false) :
      Step s t [.read m] (s.finish remote (.error (.wire (.unsupported m.kind)))) t := by
    rw [finish_of_registered stage rfl]
    exact .protests stage unserved
  cases m with
  | keepAlive => exact .alive stage
  | choke => exact .choked stage
  | unchoke => exact .unchoked stage
  | «have» i => exact .announced stage
  | piece i start block => exact .brought stage
  | _ => exact protests rfl

theorem received_step (s : Session) (t : Transfer) (reply : Except MessageFault Message) :
    Step s t (s.traffic (.received reply)) (s.received reply) t := by
  cases stage : s.stage with
  | dialogue remote d =>
    cases d with
    | awaitBitfield =>
      cases reply with
      | ok m =>
        simp only [received, stage, traffic, want, if_true]
        exact opened_step stage t m
      | error fault =>
        simp only [received, stage, traffic]
        exact Step.end_ stage rfl _ (.inl rfl)
    | awaitMessage =>
      cases reply with
      | ok m =>
        simp only [received, stage, traffic, want, if_true]
        exact told_step stage t m
      | error fault =>
        simp only [received, stage, traffic]
        exact Step.quit stage rfl _ (.inl rfl)
    | _ =>
      cases reply <;> simp only [received, stage, traffic, want] <;> exact .passes
  | _ =>
    cases reply <;> simp only [received, stage, traffic, want] <;> exact .passes

theorem turn_step (s : Session) (t : Transfer) (now : Nat) (disk : DiskOutcome) :
    Step s t [] (s.turn t now disk).1 (s.turn t now disk).2 := by
  cases stage : s.stage with
  | dialogue remote d =>
    cases d with
    | register bits =>
      simp only [turn, stage]
      split
      next accepted => exact .registers stage accepted
      next refused =>
        have same := Transfer.eq_of_register_refused refused
        subst same
        exact Step.end_ stage rfl _ (.inl rfl)
    | checkComplete =>
      simp only [turn, stage]
      split
      next => exact Step.quit stage rfl _ (.inl rfl)
      next incomplete => exact .listens stage (Bool.eq_false_iff.2 incomplete)
    | addPiece i =>
      simp only [turn, stage]
      rcases added : t.addPiece remote i with ⟨outcome, next⟩
      cases outcome with
      | ok => exact .adds stage added
      | error e =>
        have from_ : next = (t.call (.addPiece remote i)).2 := (congrArg Prod.snd added).symm
        exact Step.quit stage rfl _ (.inr ⟨_, from_⟩)
    | deliver i offset block =>
      simp only [turn, stage]
      rcases delivered : t.deliver i offset block disk with ⟨outcome, next⟩
      have from_ : next = (t.deliver i offset block disk).2 := (congrArg Prod.snd delivered).symm
      cases outcome with
      | ok => exact from_ ▸ .delivers stage disk
      | error e => exact Step.quit stage rfl _ (.inr ⟨.deliver i offset block disk, from_⟩)
    | fill =>
      simp only [turn, stage]
      split
      next free =>
        split
        next next picked =>
          have from_ : next = (t.pick remote now).2 := (congrArg Prod.snd picked).symm
          exact Step.quit stage rfl _ (.inr ⟨.pick remote now, from_⟩)
        next picked => exact .rests stage (.inr ⟨now, (congrArg Prod.snd picked).symm⟩)
        next picked => exact .asks stage free picked
      next => exact .rests stage (.inl rfl)
    | _ =>
      simp only [turn, stage]
      exact .passes
  | leave remote result =>
    simp only [turn, stage]
    exact .leaves stage
  | _ =>
    simp only [turn, stage]
    exact .passes

theorem step_step (s : Session) (t : Transfer) (h : Happening) :
    Step s t (s.traffic h) (s.step t h).1 (s.step t h).2 := by
  cases h with
  | begins => exact start_step s t
  | sent failure => exact sent_step s t failure
  | greeted reply => exact greeted_step s t reply
  | received reply => exact received_step s t reply
  | turn now disk => exact turn_step s t now disk

end Session

end Swarm
