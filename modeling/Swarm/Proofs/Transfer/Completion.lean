import Mathlib.Logic.Relation
import Swarm.Proofs.Transfer.Honest
import Swarm.Proofs.Transfer.Peers

/-!
Downloads from peers that answer truthfully. In whatever order peers are asked and answers come in,
no call fails, each block is asked for once, and when there is nothing left to ask for or to wait
for, the file is the data.
-/

namespace Swarm.Transfer

open Storage (OutputFile Tree)

/-- A download between peers that answer truthfully, with the requests handed out so far and those
of them that are not answered yet. -/
structure Exchange where
  transfer : Transfer
  asked : List BlockRequest
  due : List BlockRequest

namespace Exchange

def start (t : Transfer) : Exchange := ⟨t, [], []⟩

def handed : Except TransferError (Option BlockRequest) → List BlockRequest
  | .ok (some r) => [r]
  | _ => []

def ask (e : Exchange) (peer : PeerId) (now : Nat) : Exchange where
  transfer := (e.transfer.pick peer now).2
  asked := e.asked ++ handed (e.transfer.pick peer now).1
  due := e.due ++ handed (e.transfer.pick peer now).1

def answer (e : Exchange) (data : Bytes) (r : BlockRequest) : Exchange where
  transfer := (e.transfer.deliver r.piece r.offset (e.transfer.blockOf data r) .smooth).2
  asked := e.asked
  due := e.due.erase r

/-- A registered peer is asked while no request waits too long, or a request is answered. -/
inductive Step (data : Bytes) (e : Exchange) : Exchange → Prop where
  | ask (peer : PeerId) (now : Nat) (registered : e.transfer.isRegistered peer = true)
      (young : ∀ o ∈ e.transfer.openRequests, now - o.issuedAt < e.transfer.requestTimeout) :
      Step data e (e.ask peer now)
  | answer (r : BlockRequest) (due : r ∈ e.due) : Step data e (e.answer data r)

def Reaches (t : Transfer) (data : Bytes) (e : Exchange) : Prop :=
  Relation.ReflTransGen (Step data) (start t) e

structure Fair (t : Transfer) (data : Bytes) (e : Exchange) : Prop where
  after : ∃ calls, e.transfer = t.after calls
  peers : e.transfer.peers = t.peers
  faithful : e.transfer.Faithful data
  due : e.due.Perm e.transfer.requests
  asked_nodup : e.asked.Nodup
  asked : ∀ r, r ∈ e.asked ↔ e.transfer.Sought r

variable {t : Transfer} {data : Bytes} {e f : Exchange}

theorem fair_start (sound : t.Sound)
    (fresh : ∀ (i : Nat) (p : Piece), t.pieces[i]? = some p → p.Fresh)
    (unfinished : t.finished = []) : Fair t data (start t) := by
  have missing : ∀ {i k : Nat} {b : Block}, t.block? i k = some b → b = .missing := by
    intro i k b place
    obtain ⟨p, found, member⟩ := block?_eq_some_iff.1 place
    exact fresh i p found b (List.mem_of_getElem? member)
  have requests : t.requests = [] := by
    apply List.eq_nil_iff_forall_not_mem.2
    intro r out
    obtain ⟨k, place, -⟩ := sound.mem_requests_iff_block?.1 out
    cases missing place
  constructor
  case after => exact ⟨[], rfl⟩
  case peers => rfl
  case faithful =>
    constructor
    · intro i k octets place
      cases missing place
    · intro i done
      rw [show (start t).transfer.finished = [] from unfinished] at done
      cases done
  case due =>
    rw [show (start t).transfer.requests = [] from requests]
    exact .nil
  case asked_nodup => exact List.nodup_nil
  case asked =>
    intro r
    refine iff_of_false List.not_mem_nil ?_
    rintro ⟨k, b, place, known, -⟩
    exact known (missing place)

theorem fair_registered {c : Content} (wf : c.WellFormed) (maxPeers requestTimeout : Nat)
    (file : OutputFile) (peers : List (PeerId × Bytes)) :
    let t := (Transfer.start c maxPeers requestTimeout file).after
      (peers.map fun peer => .register peer.1 peer.2)
    Fair t data (start t) := by
  intro t
  obtain ⟨registered, same⟩ :=
    after_registers (Transfer.start c maxPeers requestTimeout file) peers
  have sound : t.Sound := sound_after wf maxPeers requestTimeout file _
  refine fair_start sound ?_ (congrArg Transfer.finished same)
  intro i p found
  have inside := sound.lt_of_piece found
  have missing : t.missing = List.range t.totalPieces := by
    rw [show t = _ from same]
    rfl
  rw [← List.mem_range, ← missing] at inside
  exact (sound.suits i p found).fresh inside

namespace Fair

theorem sound (fair : Fair t data e) (sound : t.Sound) : e.transfer.Sound := by
  obtain ⟨calls, same⟩ := fair.after
  rw [same]
  exact sound.after calls

theorem content (fair : Fair t data e) (sound : t.Sound) : e.transfer.content = t.content := by
  obtain ⟨calls, same⟩ := fair.after
  rw [same]
  exact (sound.settings_after calls).1

theorem full (fair : Fair t data e) (sound : t.Sound) (saved : t.Saved) :
    e.transfer.file.length = e.transfer.content.length := by
  obtain ⟨calls, same⟩ := fair.after
  rw [same]
  exact (sound.after_saved saved calls).1.length

theorem counted (fair : Fair t data e) (sound : t.Sound) (counted : t.Counted) :
    e.transfer.Counted := by
  obtain ⟨calls, same⟩ := fair.after
  rw [same]
  exact sound.after_counted counted calls

theorem after_call (fair : Fair t data e) (c : Call) :
    ∃ calls, (e.transfer.call c).2 = t.after calls := by
  obtain ⟨calls, same⟩ := fair.after
  refine ⟨calls ++ [c], ?_⟩
  rw [after_append, ← same]
  rfl

theorem ask (fair : Fair t data e) (sound : t.Sound) {peer : PeerId} {now : Nat}
    (registered : e.transfer.isRegistered peer = true)
    (young : ∀ o ∈ e.transfer.openRequests, now - o.issuedAt < e.transfer.requestTimeout) :
    Fair t data (e.ask peer now) := by
  have unbroken := fair.sound sound
  rcases unbroken.pick_of_young registered young with nothing | ⟨r, next, picked, first⟩
  · have same : e.ask peer now = e := by
      simp only [Exchange.ask, nothing, handed, List.append_nil]
    rw [same]
    exact fair
  · have after := fair.after_call (.pick peer now)
    have peers := e.transfer.peers_pick peer now
    simp only [call, picked] at after peers
    simp only [Exchange.ask, picked, handed]
    constructor
    case after => exact after
    case peers => exact peers.trans fair.peers
    case faithful => exact first.faithful fair.faithful
    case due =>
      rw [first.requests]
      exact fair.due.append_right [r]
    case asked_nodup =>
      refine List.nodup_append'.2 ⟨fair.asked_nodup, List.nodup_singleton r, ?_⟩
      intro s old new
      cases List.mem_singleton.1 new
      exact first.not_sought ((fair.asked r).1 old)
    case asked =>
      intro s
      rw [List.mem_append, List.mem_singleton, fair.asked s, first.sought_iff]

theorem answer (fair : Fair t data e) (sound : t.Sound) (saved : t.Saved)
    (describes : t.content.Describes data) {r : BlockRequest} (due : r ∈ e.due) :
    Fair t data (e.answer data r) := by
  have unbroken := fair.sound sound
  have taken : TakenIn e.transfer (e.answer data r).transfer data r :=
    (unbroken.deliver_due (fair.full sound saved) (fair.content sound ▸ describes) fair.faithful
      (fair.due.mem_iff.1 due) rfl).2
  constructor
  case after => exact fair.after_call (.deliver r.piece r.offset _ .smooth)
  case peers => exact (e.transfer.peers_deliver ..).trans fair.peers
  case faithful => exact taken.faithful
  case due => exact (fair.due.erase r).trans taken.requests.symm
  case asked_nodup => exact fair.asked_nodup
  case asked => exact fun s => (fair.asked s).trans (taken.sought s).symm

theorem step (fair : Fair t data e) (sound : t.Sound) (saved : t.Saved)
    (describes : t.content.Describes data) (step : Step data e f) : Fair t data f := by
  cases step with
  | ask peer now registered young => exact fair.ask sound registered young
  | answer r due => exact fair.answer sound saved describes due

theorem of_reaches (first : Fair t data (start t)) (sound : t.Sound) (saved : t.Saved)
    (describes : t.content.Describes data) (reached : Reaches t data e) : Fair t data e := by
  -- By induction on the steps. Each makes one call, so what holds in all runs of calls is known
  -- already; `Fair` adds what is owed to truthful answers.
  induction reached with
  | refl => exact first
  | tail _ step fair => exact fair.step sound saved describes step

/-- What was asked for are blocks that there are, so there is a limit to it. -/
theorem asked_subperm (fair : Fair t data e) (sound : t.Sound) :
    e.asked.Subperm t.content.requests := by
  apply fair.asked_nodup.subperm
  intro r asked
  obtain ⟨k, b, place, -, request⟩ := (fair.asked r).1 asked
  rw [Content.mem_requests, ← fair.content sound]
  exact (fair.sound sound).hasBlock_iff.2 ⟨k, b, place, request⟩

theorem asked_perm (fair : Fair t data e) (sound : t.Sound)
    (all : ∀ i < e.transfer.totalPieces, i ∈ e.transfer.finished) :
    e.asked.Perm t.content.requests := by
  have unbroken := fair.sound sound
  refine (fair.asked_subperm sound).antisymm (t.content.requests_nodup.subperm ?_)
  intro r listed
  rw [Content.mem_requests, ← fair.content sound, unbroken.hasBlock_iff] at listed
  obtain ⟨k, b, place, request⟩ := listed
  obtain ⟨p, found, member⟩ := block?_eq_some_iff.1 place
  have done := (unbroken.suits _ p found).done (all _ (unbroken.lt_of_piece found))
  refine (fair.asked r).2 ⟨k, b, place, ?_, request⟩
  rw [done b (List.mem_of_getElem? member)]
  simp

theorem openRequests_eq_nil (fair : Fair t data e) (due : e.due = []) :
    e.transfer.openRequests = [] := by
  have requests := fair.due.symm
  rw [due] at requests
  exact List.map_eq_nil_iff.1 requests.eq_nil

/-- When nothing is waited for and no peer is asked for anything, all is done that a peer has. -/
theorem all_finished (fair : Fair t data e) (sound : t.Sound) (due : e.due = [])
    (covered : ∀ i < t.totalPieces, ∃ peer bits, t.bitfield? peer = some bits ∧
      Bitfield.has bits i = true)
    (idle : ∀ peer, t.isRegistered peer = true →
      ∃ now, (e.transfer.pick peer now).1 = .ok none) :
    ∀ i < e.transfer.totalPieces, i ∈ e.transfer.finished := by
  intro i inside
  have unbroken := fair.sound sound
  have same : e.transfer.totalPieces = t.totalPieces :=
    congrArg Content.pieceCount (fair.content sound)
  obtain ⟨peer, bits, known, has⟩ := covered i (same ▸ inside)
  obtain ⟨now, nothing⟩ := idle peer (by rw [isRegistered, known]; rfl)
  rw [bitfield?, ← fair.peers] at known
  have settled : e.transfer.Settled now i := unbroken.settled_of_pick known nothing inside has
  -- With no request out, there is something to ask for of each piece that is not done.
  by_contra undone
  refine unbroken.not_settled_of_all_expired undone ?_ settled
  rw [fair.openRequests_eq_nil due]
  exact fun _ member => absurd member List.not_mem_nil

theorem content_eq (fair : Fair t data e) (sound : t.Sound) (saved : t.Saved)
    (describes : t.content.Describes data)
    (all : ∀ i < e.transfer.totalPieces, i ∈ e.transfer.finished) :
    e.transfer.file.content = data := by
  have unbroken := fair.sound sound
  have full := fair.full sound saved
  have size : data.length = e.transfer.content.length := by
    rw [fair.content sound, describes.length]
  refine unbroken.wellFormed.eq_of_octets_eq ?_ size ?_
  · rw [OutputFile.length_content, full]
  · exact fun i inside => fair.faithful.finished i (all i inside)

end Fair

end Exchange

/-- Peers that together have all pieces and answer truthfully complete a download in every order of
requests and answers: no call fails and no piece is rejected on the way, and when nothing is left to
ask for or to wait for, the file is the data and each block was asked for once. -/
theorem truthful_peers_complete (name : String) {pieceLength : Nat} {data : Bytes}
    (filled : data ≠ []) (positive : 0 < pieceLength) (limit : pieceLength ≤ maxPieceLength)
    (few : (Content.ofData name pieceLength data).pieceCount ≤ UInt32.size) {tree : Tree}
    {path : String} {file : OutputFile}
    (created : OutputFile.create tree path data.length = .ok file) (maxPeers requestTimeout : Nat)
    (peers : List (PeerId × Bytes)) :
    let c := Content.ofData name pieceLength data
    let t := (start c maxPeers requestTimeout file).after
      (peers.map fun peer => .register peer.1 peer.2)
    let total := ((List.range c.pieceCount).map fun i => blockCount (c.sizeAt i)).sum
    (∀ i < c.pieceCount, ∃ peer bits, t.bitfield? peer = some bits ∧ Bitfield.has bits i) →
      ∀ e, Exchange.Reaches t data e →
        (∀ peer now, t.isRegistered peer → ∃ r, (e.transfer.pick peer now).1 = .ok r) ∧
        (∀ r ∈ e.due, ∃ outcome, (outcome = .stored ∨ outcome = .verified) ∧
          (e.transfer.deliver r.piece r.offset (e.transfer.blockOf data r) .smooth).1 =
            .ok outcome) ∧
        e.asked.length ≤ total ∧
        (e.due = [] →
          (∀ peer, t.isRegistered peer → ∃ now, (e.transfer.pick peer now).1 = .ok none) →
          e.transfer.isComplete ∧ e.transfer.openRequests = [] ∧ e.transfer.bytesLeft = 0 ∧
            e.transfer.file.content = data ∧ e.asked.length = total) := by
  intro c t total covered e reached
  obtain ⟨earlier, rfl⟩ := OutputFile.exists_ofContent_of_create created
  have wf : c.WellFormed := Content.wellFormed_ofData filled positive limit few
  have empty := Sound.start wf maxPeers requestTimeout (.ofContent path data.length earlier)
  have sound : t.Sound := empty.after _
  have content : t.content = c := (empty.settings_after _).1
  have saved : t.Saved := (empty.after_saved (saved_start maxPeers requestTimeout rfl) _).1
  have counted : t.Counted := empty.after_counted (counted_start c maxPeers requestTimeout _) _
  have describes : t.content.Describes data := content ▸ Content.describes_ofData positive
  have first : (Exchange.start t).Fair t data :=
    Exchange.fair_registered wf maxPeers requestTimeout _ peers
  have fair : e.Fair t data := first.of_reaches sound saved describes reached
  have unbroken := fair.sound sound
  have count : t.content.requests.length = total := by rw [Content.length_requests, content]
  refine ⟨?_, ?_, ?_, ?_⟩
  · intro peer now registered
    obtain ⟨bits, known⟩ := Option.isSome_iff_exists.1 registered
    rw [bitfield?, ← fair.peers] at known
    exact unbroken.exists_pick_eq_ok known now
  · intro r due
    have answered := (unbroken.deliver_due (fair.full sound saved)
      (fair.content sound ▸ describes) fair.faithful (fair.due.mem_iff.1 due) rfl).1
    exact answered.elim (fun stored => ⟨_, Or.inl rfl, stored⟩)
      (fun verified => ⟨_, Or.inr rfl, verified⟩)
  · rw [← count]
    exact (fair.asked_subperm sound).length_le
  · intro due idle
    rw [← content] at covered
    have all := fair.all_finished sound due covered idle
    have complete := unbroken.isComplete_iff.2 all
    refine ⟨complete, fair.openRequests_eq_nil due,
      unbroken.bytesLeft_eq_zero (fair.counted sound counted) complete,
      fair.content_eq sound saved describes all, ?_⟩
    rw [← count, (fair.asked_perm sound all).length_eq]

theorem truthful_peers_complete_sample :
    let other : PeerId := Fixed.fill 20 2
    let file : OutputFile := .ofContent "out" 3 [9, 9, 9, 9]
    let t := (start Sample.content 4 1000 file).after
      [.register Sample.peer [128], .register other [64]]
    let asked := ((Exchange.start t).ask Sample.peer 0).ask other 5
    let e := (asked.answer [1, 2, 3] ⟨1, 0, 1⟩).answer [1, 2, 3] ⟨0, 0, 2⟩
    OutputFile.create ⟨[(["out"], .file [9, 9, 9, 9])], 4096⟩ "out" 3 = .ok file ∧
      Exchange.Reaches t [1, 2, 3] e ∧ e.due = [] ∧
      (∀ peer, t.isRegistered peer → (e.transfer.pick peer 7).1 = .ok none) ∧
      e.transfer.file.content = [1, 2, 3] ∧ e.asked.length = 2 := by
  intro other file t asked e
  have created : OutputFile.create ⟨[(["out"], .file [9, 9, 9, 9])], 4096⟩ "out" 3 = .ok file :=
    Sample.created
  have reached : Exchange.Reaches t [1, 2, 3] e := by
    refine .tail (.tail (.tail (.tail .refl (.ask Sample.peer 0 ?_ ?_)) (.ask other 5 ?_ ?_))
      (.answer ⟨1, 0, 1⟩ ?_)) (.answer ⟨0, 0, 2⟩ ?_) <;> decide +kernel
  have due : e.due = [] := by decide +kernel
  have peers : t.peers = [(other, [64]), (Sample.peer, [128])] := by decide +kernel
  have idle : ∀ peer, t.isRegistered peer → (e.transfer.pick peer 7).1 = .ok none := by
    intro peer registered
    rw [isRegistered, bitfield?, peers, List.lookup_isSome_iff] at registered
    simp only [List.mem_cons, List.not_mem_nil, or_false] at registered
    obtain ⟨_, rfl | rfl, same⟩ := registered
    · rw [eq_of_beq same]
      decide +kernel
    · rw [eq_of_beq same]
      decide +kernel
  have covered : ∀ i < Sample.content.pieceCount, ∃ peer bits, t.bitfield? peer = some bits ∧
      Bitfield.has bits i = true := by
    intro i inside
    have cases : i = 0 ∨ i = 1 := by
      have count : Sample.content.pieceCount = 2 := by decide +kernel
      omega
    rcases cases with rfl | rfl
    · exact ⟨Sample.peer, [128], by decide +kernel, by decide⟩
    · exact ⟨other, [64], by decide +kernel, by decide⟩
  have done := (@truthful_peers_complete "sample" 2 [1, 2, 3] (by simp) (by decide) (by decide)
    (by decide +kernel) _ _ _ created 4 1000 [(Sample.peer, [128]), (other, [64])] covered e
      reached).2.2.2 due (fun peer registered => ⟨7, idle peer registered⟩)
  exact ⟨created, reached, due, idle, done.2.2.2.1, done.2.2.2.2⟩

end Swarm.Transfer
