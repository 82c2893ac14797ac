import Mathlib.Data.List.Basic
import Swarm.Proofs.Peer.Conversation
import Swarm.Proofs.Wire.Framing

/-!
How many requests of a session wait for their blocks.

The session only counts: it adds one for a request, takes one off for every block that comes, and
starts from zero when the peer refuses requests. The count never exceeds the limit. A block that
nobody waits for is taken off too, though, so each such block lets one more request out than the
limit says.
-/

namespace Swarm

/-- Requests without their blocks, and blocks without a request, both since the peer last refused
requests. -/
structure Tally where
  /-- Piece and offset of each request whose block has not come since. -/
  awaited : List (UInt32 × UInt32)
  strays : Nat
deriving DecidableEq

namespace Tally

def empty : Tally := ⟨[], 0⟩

def note (n : Tally) : Traffic → Tally
  | .wrote octets =>
    match Message.ofFrame octets with
    | .ok (.request index start _) => { n with awaited := n.awaited ++ [(index, start)] }
    | _ => n
  | .read .choke => empty
  | .read (.piece index start _) =>
    if (index, start) ∈ n.awaited then
      { n with awaited := n.awaited.filter (· ≠ (index, start)) }
    else { n with strays := n.strays + 1 }
  | .read _ => n

def of (log : List Traffic) : Tally := log.foldl note empty

theorem of_append (log passed : List Traffic) : of (log ++ passed) = passed.foldl note (of log) :=
  List.foldl_append

variable {n : Tally} {count : Nat}

theorem note_wrote_of_ne {octets : Bytes}
    (other : ∀ index start length, Message.ofFrame octets ≠ .ok (.request index start length)) :
    n.note (.wrote octets) = n := by
  simp only [note]

theorem note_wrote_request (r : BlockRequest) :
    n.note (.wrote (Session.requestMessage r).frame) =
      { n with awaited := n.awaited ++ [(UInt32.ofNat r.piece, UInt32.ofNat r.offset)] } := by
  have fits : (Session.requestMessage r).length < UInt32.size := (by decide : 13 < UInt32.size)
  have read := Message.ofFrame_frame fits
  rw [Session.requestMessage] at read ⊢
  simp only [note, read]

theorem note_read_le (bound : n.awaited.length ≤ count + n.strays) (m : Message) :
    (n.note (.read m)).awaited.length ≤ count + (n.note (.read m)).strays := by
  cases m with
  | choke => exact Nat.zero_le _
  | piece index start block =>
    simp only [note]
    split
    · exact Nat.le_trans (List.length_filter_le _ _) bound
    · exact Nat.le_trans bound (Nat.add_le_add_left (Nat.le_succ _) _)
  | _ => exact bound

theorem note_piece_le (bound : n.awaited.length ≤ count + n.strays) (index start : UInt32)
    (block : Bytes) : (n.note (.read (.piece index start block))).awaited.length ≤
      count - 1 + (n.note (.read (.piece index start block))).strays := by
  simp only [note]
  split
  next member =>
    have fewer : (n.awaited.filter (· ≠ (index, start))).length < n.awaited.length :=
      List.length_filter_lt_length_iff_exists.2 ⟨_, member, by simp⟩
    dsimp only
    omega
  next =>
    dsimp only
    omega

end Tally

theorem Session.mayRequest_iff {s : Session} :
    s.mayRequest = true ↔ s.choked = false ∧ s.inFlight < s.pipeline := by
  simp only [mayRequest, Bool.and_eq_true, Bool.not_eq_true', decide_eq_true_eq]

namespace Conversation

/-- The session counts no more requests than it may make, and no fewer than are awaited but for
those that stray blocks stand against. -/
structure Accounted (pipeline : Nat) (g : Conversation) : Prop where
  limit : g.session.pipeline = pipeline
  bounded : g.session.inFlight ≤ pipeline
  free : ∀ remote r, g.session.stage = .dialogue remote (.sendRequest r) →
    g.session.inFlight < pipeline
  awaited : (Tally.of g.log).awaited.length ≤ g.session.inFlight + (Tally.of g.log).strays

section Own

variable {pipeline : Nat} {s s' : Session} {t t' : Transfer} {log passed : List Traffic}

theorem Accounted.awaited_wrote (accounted : Accounted pipeline ⟨s, t, log⟩) {octets : Bytes}
    (other : ∀ index start length, Message.ofFrame octets ≠ .ok (.request index start length)) :
    (Tally.of (log ++ [.wrote octets])).awaited.length ≤
      s.inFlight + (Tally.of (log ++ [.wrote octets])).strays := by
  rw [Tally.of_append, List.foldl_cons, List.foldl_nil, Tally.note_wrote_of_ne other]
  exact accounted.awaited

theorem Accounted.awaited_read (accounted : Accounted pipeline ⟨s, t, log⟩) (m : Message) :
    (Tally.of (log ++ [.read m])).awaited.length ≤
      s.inFlight + (Tally.of (log ++ [.read m])).strays := by
  rw [Tally.of_append]
  exact Tally.note_read_le accounted.awaited m

theorem Accounted.of_calm (accounted : Accounted pipeline ⟨s, t, log⟩) {stage : Stage}
    (choked : Bool) (calm : ∀ remote r, stage ≠ .dialogue remote (.sendRequest r))
    (awaited : (Tally.of (log ++ passed)).awaited.length ≤
      s.inFlight + (Tally.of (log ++ passed)).strays) :
    Accounted pipeline ⟨{ s with stage := stage, choked := choked }, t', log ++ passed⟩ :=
  ⟨accounted.limit, accounted.bounded, fun remote r same => absurd same (calm remote r), awaited⟩

theorem Accounted.own (accounted : Accounted pipeline ⟨s, t, log⟩) (step : s.Step t passed s' t') :
    Accounted pipeline ⟨s', t', log ++ passed⟩ := by
  have silent : (Tally.of (log ++ [])).awaited.length ≤
      s.inFlight + (Tally.of (log ++ [])).strays := by
    rw [List.append_nil]
    exact accounted.awaited
  -- Only a request, a block and a refusal change the count; everything else leaves it as it was.
  cases step with
  | passes => exact ⟨accounted.limit, accounted.bounded, accounted.free, silent⟩
  | waits stage =>
    exact ⟨accounted.limit, accounted.bounded, accounted.free, accounted.awaited_read _⟩
  | begins => exact accounted.of_calm _ nofun silent
  | greets =>
    refine accounted.of_calm _ nofun (accounted.awaited_wrote ?_)
    intro index start length
    obtain ⟨e, refused⟩ := (Handshake.plain s.infoHash s.ownId).ofFrame_encode
    rw [refused]
    nofun
  | meets => exact accounted.of_calm _ nofun silent
  | learns => exact accounted.of_calm _ nofun (accounted.awaited_read _)
  | ends _ _ heard =>
    rcases heard with rfl | ⟨m, rfl⟩
    · exact accounted.of_calm _ nofun silent
    · exact accounted.of_calm _ nofun (accounted.awaited_read m)
  | registers => exact accounted.of_calm _ nofun silent
  | declares => exact accounted.of_calm _ nofun (accounted.awaited_wrote nofun)
  | listens => exact accounted.of_calm _ nofun silent
  | alive => exact accounted.of_calm _ nofun (accounted.awaited_read _)
  | unchoked => exact accounted.of_calm _ nofun (accounted.awaited_read _)
  | announced => exact accounted.of_calm _ nofun (accounted.awaited_read _)
  | protests => exact accounted.of_calm _ nofun (accounted.awaited_read _)
  | adds => exact accounted.of_calm _ nofun silent
  | delivers => exact accounted.of_calm _ nofun silent
  | rests => exact accounted.of_calm _ nofun silent
  | quits => exact accounted.of_calm _ nofun silent
  | leaves => exact accounted.of_calm _ nofun silent
  | choked =>
    refine ⟨accounted.limit, Nat.zero_le _, nofun, ?_⟩
    rw [Tally.of_append]
    exact Nat.zero_le _
  | @brought _ i start block stage =>
    refine ⟨accounted.limit, Nat.le_trans (Nat.sub_le _ _) accounted.bounded, nofun, ?_⟩
    rw [Tally.of_append]
    exact Tally.note_piece_le accounted.awaited i start block
  | asks stage free picked =>
    refine ⟨accounted.limit, accounted.bounded, ?_, silent⟩
    intro remote r _
    exact Nat.lt_of_lt_of_eq (Session.mayRequest_iff.1 free).2 accounted.limit
  | @asked remote r stage =>
    refine ⟨accounted.limit, accounted.free remote r stage, nofun, ?_⟩
    rw [Tally.of_append, List.foldl_cons, List.foldl_nil, Tally.note_wrote_request]
    have before := accounted.awaited
    simp only [List.length_append, List.length_singleton] at before ⊢
    omega

end Own

theorem Accounted.move {pipeline : Nat} {g : Conversation} (accounted : Accounted pipeline g)
    (move : Move) : Accounted pipeline (g.step move) := by
  cases move with
  | own h => exact accounted.own (g.session.step_step g.transfer h)
  | other call => exact ⟨accounted.limit, accounted.bounded, accounted.free, accounted.awaited⟩

theorem accounted_run (peer : Peer) (infoHash : Digest) (ownId : PeerId) (pipeline : Nat)
    (readTimeout : Duration) (t : Transfer) (moves : List Move) :
    Accounted pipeline
      ((start (.new peer infoHash ownId pipeline readTimeout) t).run moves) := by
  apply run_induction moves
  · exact fun move _ g accounted => accounted.move move
  · exact ⟨rfl, Nat.zero_le _, nofun, Nat.zero_le _⟩

end Conversation

/-- A session never counts more requests as out than its limit allows, whatever its peer sends and
whatever others do with the download. The requests that really wait for their blocks are at most as
many, and one more for each block that came without being awaited since the peer last refused
requests. -/
theorem requests_awaited_le (peer : Peer) (infoHash : Digest) (ownId : PeerId) (pipeline : Nat)
    (readTimeout : Duration) (t : Transfer) (moves : List Move) :
    let g := (Conversation.start (.new peer infoHash ownId pipeline readTimeout) t).run moves
    g.session.inFlight ≤ pipeline ∧
      (Tally.of g.log).awaited.length ≤ g.session.inFlight + (Tally.of g.log).strays ∧
      ((Tally.of g.log).strays = 0 → (Tally.of g.log).awaited.length ≤ pipeline) := by
  intro g
  have accounted : Conversation.Accounted pipeline g :=
    Conversation.accounted_run peer infoHash ownId pipeline readTimeout t moves
  refine ⟨accounted.bounded, accounted.awaited, ?_⟩
  intro none_stray
  have awaited := accounted.awaited
  rw [none_stray] at awaited
  exact Nat.le_trans awaited accounted.bounded

namespace Conversation.Sample

def content : Content := .ofData "sample" 1 [1, 2, 3]

def session : Session :=
  .new ⟨⟨.v4 ⟨10, 0, 0, 1⟩, 6881, 0⟩, none⟩ (Fixed.fill 20 17) (Fixed.fill 20 5) 1 (.ofSeconds 120)

def transfer : Transfer := .start content 4 1000 (.ofContent "out" 3 [])

def opening : List Move :=
  [.begins, .sent none, .greeted (.ok (Handshake.plain (Fixed.fill 20 17) (Fixed.fill 20 1))),
    .received (.ok (.bitfield [224])), .turn 0 .smooth, .sent none, .turn 0 .smooth,
    .received (.ok .unchoke), .turn 0 .smooth, .sent none, .turn 0 .smooth,
    .turn 0 .smooth].map .own

/-- The peer sends the first block, and the session makes its next request. -/
def exchange : List Move :=
  [.received (.ok (.piece 0 0 [1])), .turn 0 .smooth, .turn 0 .smooth, .sent none, .turn 0 .smooth,
    .turn 0 .smooth].map .own

end Conversation.Sample

/-- A peer that sends its first block twice has two requests to answer at once where one is
allowed. -/
theorem awaited_beyond_pipeline :
    let g := (Conversation.start Conversation.Sample.session Conversation.Sample.transfer).run
      (Conversation.Sample.opening ++ Conversation.Sample.exchange ++ Conversation.Sample.exchange)
    g.session.pipeline = 1 ∧ (Tally.of g.log).awaited = [(1, 0), (2, 0)] ∧
      ¬ (Tally.of g.log).awaited.length ≤ g.session.pipeline := by
  decide +kernel

end Swarm
