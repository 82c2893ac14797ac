import Swarm.Proofs.Transfer.Blocks
import Swarm.Proofs.Transfer.Progress

/-!
How often a block is asked for. A request that is handed out stays out until its block is taken in
or its piece is begun again, and a block that was taken in is not asked for while its piece goes on.
So a block is handed out again only on a request that has waited too long without an answer, or
after its piece was begun again.
-/

namespace Swarm

open Storage (DiskOutcome StorageError OutputFile)

theorem Content.HasBlock.eq_of_place {c : Content} {r s : BlockRequest} (first : c.HasBlock r)
    (second : c.HasBlock s) (same : r.place = s.place) : r = s := by
  obtain ⟨-, k, -, request⟩ := first
  obtain ⟨-, m, -, request'⟩ := second
  obtain ⟨piece, offset⟩ := Prod.mk.inj same
  rw [request, request'] at offset
  have number : k = m := Piece.blockOffset_injective offset
  rw [request, request', number, piece]

theorem Storage.OutputFile.ne_sync_of_writeAt {f g : OutputFile} {disk : DiskOutcome} {offset : Nat}
    {data : Bytes} {e : StorageError} (failed : f.writeAt disk offset data = (.error e, g))
    (path : String) (cause : SystemError) : e ≠ .system .sync path cause := by
  intro sync
  rcases OutputFile.writeAt_eq_error failed with ⟨-, same⟩ | ⟨action, _, other, same⟩
  · cases sync.symm.trans same
  · cases sync.symm.trans same
    exact other rfl

namespace Transfer

namespace Event

def HandsOut (e : Event) (place : Nat × Nat) : Prop :=
  ∃ r, e.answer = .picked (.ok (some r)) ∧ r.place = place

def Receives (e : Event) (place : Nat × Nat) : Prop :=
  ∃ data disk outcome, e = ⟨.deliver place.1 place.2 data disk, .delivered outcome⟩ ∧
    ∀ error, outcome ≠ .error (.wire error)

/-- A piece is begun again: its digest is wrong, or writing it failed. Where only the sync after the
last write fails, the piece stays done. -/
def Resets (e : Event) (i : Nat) : Prop :=
  ∃ offset data disk outcome, e = ⟨.deliver i offset data disk, .delivered outcome⟩ ∧
    (outcome = .ok .rejected ∨ ∃ error, outcome = .error (.storage error) ∧
      ∀ path cause, error ≠ .system .sync path cause)

theorem Receives.call_eq {e : Event} {place : Nat × Nat} (received : e.Receives place) :
    ∃ data disk, e.call = .deliver place.1 place.2 data disk := by
  obtain ⟨data, disk, _, rfl, _⟩ := received
  exact ⟨data, disk, rfl⟩

theorem not_receives_of_ne {e : Event} (place : Nat × Nat)
    (other : ∀ i offset data disk, e.call ≠ .deliver i offset data disk) : ¬ e.Receives place := by
  intro received
  obtain ⟨data, disk, same⟩ := received.call_eq
  exact other _ _ data disk same

theorem not_receives_of_place {i offset : Nat} {data : Bytes} {disk : DiskOutcome} {a : Answer}
    {place : Nat × Nat} (elsewhere : (i, offset) ≠ place) :
    ¬ Receives ⟨.deliver i offset data disk, a⟩ place := by
  intro received
  obtain ⟨_, _, same⟩ := received.call_eq
  injection same with piece start
  exact elsewhere (Prod.ext piece start)

theorem not_receives_of_piece {i offset : Nat} {data : Bytes} {disk : DiskOutcome} {a : Answer}
    {r : BlockRequest} (elsewhere : r.piece ≠ i) :
    ¬ Receives ⟨.deliver i offset data disk, a⟩ r.place :=
  not_receives_of_place fun same => elsewhere (congrArg Prod.fst same).symm

theorem not_receives_of_wire {c : Call} {error : WireError} {place : Nat × Nat} :
    ¬ Receives ⟨c, .delivered (.error (.wire error))⟩ place := by
  intro received
  obtain ⟨_, _, _, same, taken⟩ := received
  injection same with _ answer
  injection answer with outcome
  exact taken error outcome.symm

end Event

/-- The block that a request is for is here, or was until its piece was done. -/
def Arrived (t : Transfer) (r : BlockRequest) : Prop :=
  ∃ k b, r = t.content.request r.piece k ∧ t.block? r.piece k = some b ∧ b.isRetrieved = true

structure HandedOut (t : Transfer) (peer : PeerId) (now : Nat) (r : BlockRequest)
    (next : Transfer) : Prop where
  has : ∃ bits, t.bitfield? peer = some bits ∧ Bitfield.has bits r.piece = true
  block : t.content.HasBlock r
  due : (∃ k, r = t.content.request r.piece k ∧ t.block? r.piece k = some .missing) ∨
    ∃ o ∈ t.openRequests, o.request = r ∧ t.requestTimeout ≤ now - o.issuedAt
  out : ⟨r, now⟩ ∈ next.openRequests
  begun : r.piece ∈ next.ongoing

variable {t next : Transfer} {r : BlockRequest}

namespace Sound

theorem block?_of_out (sound : t.Sound) {o : OpenRequest} (out : o ∈ t.openRequests) :
    ∃ k, t.block? o.request.piece k = some .requested ∧
      o.request = t.content.request o.request.piece k :=
  sound.mem_requests_iff_block?.1 (List.mem_map_of_mem out)

theorem hasBlock_of_out (sound : t.Sound) {o : OpenRequest} (out : o ∈ t.openRequests) :
    t.content.HasBlock o.request := by
  obtain ⟨k, asked, request⟩ := sound.block?_of_out out
  exact sound.hasBlock_iff.2 ⟨k, _, asked, request⟩

theorem ongoing_of_out (sound : t.Sound) {o : OpenRequest} (out : o ∈ t.openRequests) :
    o.request.piece ∈ t.ongoing := by
  obtain ⟨k, asked, -⟩ := sound.block?_of_out out
  obtain ⟨p, found, place⟩ := block?_eq_some_iff.1 asked
  exact sound.ongoing_of_requested found (List.mem_of_getElem? place)

theorem handedOut_ask (sound : t.Sound) {u : Transfer} {peer : PeerId} {bits : Bytes} {i k : Nat}
    {p : Piece} (now : Nat) (known : t.bitfield? peer = some bits)
    (has : Bitfield.has bits i = true) (found : t.pieces[i]? = some p)
    (free : p.blocks[k]? = some .missing) (begun : i ∈ u.ongoing) :
    HandedOut t peer now (p.requestFor k) (u.ask i p k now) := by
  have inside := (List.getElem?_eq_some_iff.1 free).1
  have block := sound.hasBlock_requestFor found inside
  have fresh : t.block? i k = some .missing := by rwa [block?_eq found]
  have out : ⟨p.requestFor k, now⟩ ∈ (u.ask i p k now).openRequests :=
    List.mem_append_right _ (List.mem_singleton_self _)
  rw [sound.requestFor_eq_request found inside] at block out ⊢
  exact ⟨⟨bits, known, has⟩, block, Or.inl ⟨k, rfl, fresh⟩, out, begun⟩

theorem handedOut (sound : t.Sound) {peer : PeerId} {now : Nat}
    (picked : t.pick peer now = (.ok (some r), next)) : HandedOut t peer now r next := by
  cases sound.pick_step picked with
  | @again bits k o known out expired =>
    have member := List.mem_of_getElem? out
    obtain ⟨has, old⟩ := canReissue_iff.1 expired
    exact ⟨⟨bits, known, has⟩, sound.hasBlock_of_out member, Or.inr ⟨o, member, rfl, old⟩,
      List.mem_set (List.getElem?_eq_some_iff.1 out).1 _, sound.ongoing_of_out member⟩
  | ongoing known _ begun has found free =>
    exact sound.handedOut_ask now known has found free begun
  | new known _ _ has found free =>
    exact sound.handedOut_ask now known has found free
      (List.mem_append_right _ (List.mem_singleton_self _))

/-- A block that has arrived is not handed out. -/
theorem not_arrived_of_handedOut (sound : t.Sound) {peer : PeerId} {now : Nat}
    (handed : HandedOut t peer now r next) : ¬ t.Arrived r := by
  intro arrived
  obtain ⟨k, b, request, place, here⟩ := arrived
  rcases handed.due with ⟨m, request', free⟩ | ⟨o, out, rfl, -⟩
  · rw [request] at request'
    cases Content.request_injective request'
    cases place.symm.trans free
    cases here
  · obtain ⟨m, asked, request'⟩ := sound.block?_of_out out
    rw [request] at request'
    cases Content.request_injective request'
    cases place.symm.trans asked
    cases here

/-- A block that is waited for is handed out only if its request has waited too long. -/
theorem expired_of_handedOut (sound : t.Sound) {peer : PeerId} {first now : Nat}
    (out : ⟨r, first⟩ ∈ t.openRequests) (handed : HandedOut t peer now r next) :
    t.requestTimeout ≤ now - first := by
  rcases handed.due with ⟨k, request, free⟩ | ⟨o, member, same, expired⟩
  · obtain ⟨m, asked, request'⟩ := sound.block?_of_out out
    cases Content.request_injective (request.symm.trans request')
    cases free.symm.trans asked
  · cases sound.eq_of_request_eq member out same
    exact expired

end Sound

/-! ### What a call leaves of a request -/

theorem mem_renew {k : Nat} {o o' : OpenRequest} (now : Nat) (out : t.openRequests[k]? = some o)
    (member : o' ∈ t.openRequests) (other : o' ≠ o) : o' ∈ (t.renew k o now).openRequests := by
  obtain ⟨j, place⟩ := List.mem_iff_getElem?.1 member
  have apart : k ≠ j := by
    rintro rfl
    exact other (Option.some.inj (place.symm.trans out))
  exact List.mem_iff_getElem?.2 ⟨j, by rwa [renew, List.getElem?_set_ne apart]⟩

theorem mem_dropPiece {i : Nat} {o : OpenRequest} (member : o ∈ t.openRequests)
    (other : o.request.piece ≠ i) : o ∈ dropPiece i t.openRequests :=
  List.mem_filter.2 ⟨member, by simpa using other⟩

theorem mem_dropBlock {i offset : Nat} {o : OpenRequest} (member : o ∈ t.openRequests)
    (other : (i, offset) ≠ o.request.place) : o ∈ dropBlock i offset t.openRequests := by
  refine List.mem_filter.2 ⟨member, ?_⟩
  simp only [BlockRequest.place, ne_eq, Prod.mk.injEq, not_and] at other
  simp only [Bool.not_eq_true', Bool.and_eq_false_iff, beq_eq_false_iff_ne]
  by_cases here : o.request.piece = i
  · exact Or.inr fun start => other here.symm start.symm
  · exact Or.inl here

section Pick

variable {peer : PeerId} {now : Nat} {answer : Except TransferError (Option BlockRequest)}

theorem PickStep.keeps_out (step : PickStep t peer now answer next) {o : OpenRequest}
    (out : o ∈ t.openRequests)
    (other : ¬ Event.HandsOut ⟨.pick peer now, .picked answer⟩ o.request.place) :
    o ∈ next.openRequests := by
  cases step with
  | unknown => exact out
  | nothing => exact out
  | again _ place _ =>
    refine mem_renew now place out ?_
    rintro rfl
    exact other ⟨_, rfl, rfl⟩
  | ongoing => exact List.mem_append_left _ out
  | new => exact List.mem_append_left _ out

theorem PickStep.keeps_arrived (step : PickStep t peer now answer next) (here : t.Arrived r) :
    next.Arrived r := by
  obtain ⟨k, b, request, place, arrived⟩ := here
  -- The block that is asked for was missing, so it is another one.
  have kept : ∀ {u : Transfer} {i m : Nat} {p : Piece}, u.pieces = t.pieces →
      u.content = t.content → t.pieces[i]? = some p → p.blocks[m]? = some .missing →
      (u.ask i p m now).Arrived r := by
    intro u i m p pieces content found free
    rw [← pieces] at found
    have old : u.block? r.piece k = some b := (block?_of_pieces_eq pieces _ _).trans place
    refine ⟨k, b, request.trans (congrArg (·.request r.piece k) content.symm), ?_, arrived⟩
    rw [block?_ask found free, if_neg ?_, old]
    rintro ⟨rfl, rfl⟩
    rw [block?_eq found, free] at old
    cases old
    cases arrived
  cases step with
  | unknown => exact ⟨k, b, request, place, arrived⟩
  | nothing => exact ⟨k, b, request, place, arrived⟩
  | again => exact ⟨k, b, request, place, arrived⟩
  | ongoing _ _ _ _ found free => exact kept rfl rfl found free
  | new _ _ _ _ found free => exact kept rfl rfl found free

end Pick

section Deliver

variable {i offset : Nat} {data : Bytes} {disk : DiskOutcome}
  {answer : Except TransferError Delivery}

theorem DeliverStep.keeps_arrived (step : DeliverStep t i offset data disk answer next)
    (here : t.Arrived r) :
    next.Arrived r ∨ Event.Resets ⟨.deliver i offset data disk, .delivered answer⟩ r.piece := by
  obtain ⟨k, b, request, place, arrived⟩ := here
  cases step with
  | late => exact Or.inl ⟨k, b, request, place, arrived⟩
  | unsolicited => exact Or.inl ⟨k, b, request, place, arrived⟩
  | refused => exact Or.inl ⟨k, b, request, place, arrived⟩
  | @stored p m _ found _ inside =>
    refine Or.inl ?_
    by_cases same : r.piece = i ∧ k = m
    · exact ⟨k, .held data, request, by rw [block?_store found inside, if_pos same], rfl⟩
    · exact ⟨k, b, request, by rw [block?_store found inside, if_neg same, place], arrived⟩
  | @rejected p m _ found =>
    by_cases same : r.piece = i
    · exact Or.inr ⟨offset, data, disk, _, by rw [same], Or.inl rfl⟩
    · exact Or.inl ⟨k, b, request, by rw [block?_discard found, if_neg same, place], arrived⟩
  | @unwritten p m e file _ found _ _ _ _ _ failed =>
    by_cases same : r.piece = i
    · exact Or.inr ⟨offset, data, disk, _, by rw [same],
        Or.inr ⟨e, rfl, OutputFile.ne_sync_of_writeAt failed⟩⟩
    · exact Or.inl ⟨k, b, request, by rw [block?_discard found, if_neg same, place], arrived⟩
  | @written p m file _ _ found _ _ _ complete =>
    refine Or.inl ?_
    by_cases same : r.piece = i
    · exact ⟨k, .released, request,
        by rw [block?_conclude found complete, if_pos same, place, Option.map_some], rfl⟩
    · exact ⟨k, b, request, by rw [block?_conclude found complete, if_neg same, place], arrived⟩

/-- What becomes of a request that is out when a block is delivered. -/
theorem DeliverStep.out_cases (step : DeliverStep t i offset data disk answer next)
    (sound : t.Sound) {o : OpenRequest} (out : o ∈ t.openRequests) :
    (o ∈ next.openRequests ∧
      ¬ Event.Receives ⟨.deliver i offset data disk, .delivered answer⟩ o.request.place) ∨
    next.Arrived o.request ∨
    Event.Resets ⟨.deliver i offset data disk, .delivered answer⟩ o.request.piece := by
  obtain ⟨k, asked, request⟩ := sound.block?_of_out out
  cases step with
  | late done =>
    refine Or.inl ⟨out, Event.not_receives_of_piece fun same => ?_⟩
    exact sound.ongoing_disjoint_finished (sound.ongoing_of_out out) (same ▸ done)
  | unsolicited => exact Or.inl ⟨out, Event.not_receives_of_wire⟩
  | refused => exact Or.inl ⟨out, Event.not_receives_of_wire⟩
  | @stored p m _ found start inside =>
    subst start
    by_cases same : (i, Piece.blockOffset m) = o.request.place
    · obtain ⟨here, place⟩ := Prod.mk.inj same
      have number : m = k := Piece.blockOffset_injective <| by
        rw [place, request]
        rfl
      refine Or.inr (Or.inl ⟨m, .held data, by rw [number]; exact request, ?_, rfl⟩)
      rw [block?_store found inside, if_pos ⟨here.symm, rfl⟩]
    · exact Or.inl ⟨mem_dropBlock out same, Event.not_receives_of_place same⟩
  | @rejected p m _ found =>
    by_cases same : o.request.piece = i
    · exact Or.inr (Or.inr ⟨offset, data, disk, _, by rw [same], Or.inl rfl⟩)
    · exact Or.inl ⟨mem_dropPiece out same, Event.not_receives_of_piece same⟩
  | @unwritten p m e file _ found _ _ _ _ _ failed =>
    by_cases same : o.request.piece = i
    · exact Or.inr (Or.inr ⟨offset, data, disk, _, by rw [same],
        Or.inr ⟨e, rfl, OutputFile.ne_sync_of_writeAt failed⟩⟩)
    · exact Or.inl ⟨mem_dropPiece out same, Event.not_receives_of_piece same⟩
  | @written p m file _ _ found start _ _ complete =>
    by_cases same : o.request.piece = i
    · refine Or.inr (Or.inl ⟨k, .released, request, ?_, rfl⟩)
      rw [block?_conclude found complete, if_pos same, asked, Option.map_some]
    · have elsewhere : (i, Piece.blockOffset m) ≠ o.request.place :=
        fun place => same (congrArg Prod.fst place).symm
      exact Or.inl ⟨mem_dropBlock out elsewhere, Event.not_receives_of_piece same⟩

end Deliver

/-! ### Runs -/

namespace Sound

theorem arrived_call (sound : t.Sound) (c : Call) (here : t.Arrived r) :
    (t.call c).2.Arrived r ∨ Event.Resets ⟨c, (t.call c).1⟩ r.piece := by
  rcases t.call_cases c with ⟨peer, now, rfl⟩ | ⟨i, offset, data, disk, rfl⟩ | ⟨-, peers, same⟩
  · exact Or.inl ((sound.pick_step rfl).keeps_arrived here)
  · exact (sound.deliver_step rfl).keeps_arrived here
  · rw [same]
    exact Or.inl here

theorem out_call (sound : t.Sound) (c : Call) {o : OpenRequest} (out : o ∈ t.openRequests)
    (other : ¬ Event.HandsOut ⟨c, (t.call c).1⟩ o.request.place) :
    (o ∈ (t.call c).2.openRequests ∧ ¬ Event.Receives ⟨c, (t.call c).1⟩ o.request.place) ∨
      (t.call c).2.Arrived o.request ∨ Event.Resets ⟨c, (t.call c).1⟩ o.request.piece := by
  rcases t.call_cases c with ⟨peer, now, rfl⟩ | ⟨i, offset, data, disk, rfl⟩ |
    ⟨elsewhere, peers, same⟩
  · exact Or.inl ⟨(sound.pick_step rfl).keeps_out out other, Event.not_receives_of_ne _ (by simp)⟩
  · exact (sound.deliver_step rfl).out_cases sound out
  · refine Or.inl ⟨?_, Event.not_receives_of_ne _ elsewhere⟩
    rw [same]
    exact out

theorem arrived_after (sound : t.Sound) (here : t.Arrived r) (calls : List Call) :
    (t.after calls).Arrived r ∨ ∃ e ∈ t.log calls, e.Resets r.piece := by
  induction calls generalizing t with
  | nil => exact Or.inl here
  | cons c rest ih =>
    rcases sound.arrived_call c here with still | reset
    · refine (ih ((sound.call_step c).sound sound) still).imp_right ?_
      rintro ⟨e, member, reset⟩
      exact ⟨e, List.mem_cons_of_mem _ member, reset⟩
    · exact Or.inr ⟨_, List.mem_cons_self, reset⟩

/-- While a block is not handed out again, its request stays out until the block is taken in or its
piece is begun again. -/
theorem out_after (sound : t.Sound) {o : OpenRequest} (out : o ∈ t.openRequests) (calls : List Call)
    (other : ∀ e ∈ t.log calls, ¬ e.HandsOut o.request.place) :
    (o ∈ (t.after calls).openRequests ∧ ∀ e ∈ t.log calls, ¬ e.Receives o.request.place) ∨
      (t.after calls).Arrived o.request ∨ ∃ e ∈ t.log calls, e.Resets o.request.piece := by
  induction calls generalizing t with
  | nil => exact Or.inl ⟨out, by simp [log]⟩
  | cons c rest ih =>
    have unbroken := (sound.call_step c).sound sound
    rcases sound.out_call c out (other _ List.mem_cons_self) with ⟨still, unmet⟩ | here | reset
    · rcases ih unbroken still fun e member => other e (List.mem_cons_of_mem _ member) with
        ⟨last, never⟩ | here | ⟨e, member, reset⟩
      · exact Or.inl ⟨last, List.forall_mem_cons.2 ⟨unmet, never⟩⟩
      · exact Or.inr (Or.inl here)
      · exact Or.inr (Or.inr ⟨e, List.mem_cons_of_mem _ member, reset⟩)
    · refine Or.inr ((unbroken.arrived_after here rest).imp_right ?_)
      rintro ⟨e, member, reset⟩
      exact ⟨e, List.mem_cons_of_mem _ member, reset⟩
    · exact Or.inr (Or.inr ⟨_, List.mem_cons_self, reset⟩)

end Sound

/-- In every run, a request is handed out for a block that there is, of a piece that the peer has.
If the block is handed out next at a later time, its request has waited too long and the block was
not taken in meanwhile, or its piece was begun again. -/
theorem handed_out_again {c : Content} (wf : c.WellFormed) (maxPeers requestTimeout : Nat)
    (file : OutputFile) (before : List Call) (peer : PeerId) (first : Nat) (r : BlockRequest) :
    let t := (start c maxPeers requestTimeout file).after before
    let u := (t.pick peer first).2
    (t.pick peer first).1 = .ok (some r) →
      (∃ bits, t.bitfield? peer = some bits ∧ Bitfield.has bits r.piece) ∧
      (r.piece < c.pieceCount ∧ ∃ k < blockCount (c.sizeAt r.piece), r.offset = k * blockSize ∧
        r.length = min blockSize (c.sizeAt r.piece - k * blockSize)) ∧
      ∀ (between : List Call) (peer' : PeerId) (later : Nat) (r' : BlockRequest), first ≤ later →
        ((u.after between).pick peer' later).1 = .ok (some r') → r'.place = r.place →
        (∀ e ∈ u.log between, ¬ e.HandsOut r.place) →
        (first + requestTimeout ≤ later ∧ ∀ e ∈ u.log between, ¬ e.Receives r.place) ∨
          ∃ e ∈ u.log between, e.Resets r.piece := by
  intro t u picked
  have sound : t.Sound := sound_after wf maxPeers requestTimeout file before
  obtain ⟨content, -, limit⟩ := (Sound.start wf maxPeers requestTimeout file).settings_after before
  have handed : HandedOut t peer first r u := sound.handedOut (Prod.ext picked rfl)
  have unbroken : u.Sound := (sound.pick_step rfl).sound sound
  have block := handed.block
  rw [show t.content = c from content] at block
  obtain ⟨known, k, inside, request⟩ := block
  refine ⟨handed.has, ⟨known, k, inside, congrArg BlockRequest.offset request,
    congrArg BlockRequest.length request⟩, ?_⟩
  intro between peer' later r' clock again same other
  obtain ⟨content', -, limit'⟩ := (sound.settings_after (.pick peer first :: between))
  have last : (u.after between).Sound := unbroken.after between
  have handed' : HandedOut (u.after between) peer' later r' _ := last.handedOut (Prod.ext again rfl)
  have same' : r' = r := by
    have block' := handed'.block
    rw [show (u.after between).content = t.content from content'] at block'
    exact block'.eq_of_place handed.block same
  subst same'
  rcases unbroken.out_after handed.out between other with ⟨out, never⟩ | here | reset
  · have expired := last.expired_of_handedOut out handed'
    rw [show (u.after between).requestTimeout = requestTimeout from limit'.trans limit] at expired
    exact Or.inl ⟨by omega, never⟩
  · exact absurd here (last.not_arrived_of_handedOut handed')
  · exact Or.inr reset

theorem handed_out_again_sample :
    let other : PeerId := Fixed.fill 20 2
    let t := (start Sample.content 4 1000 (.ofContent "out" 3 [9])).after
      [.register Sample.peer [192], .register other [192]]
    let u := (t.pick Sample.peer 3).2
    let between : List Call := [.pick other 4, .deliver 1 0 [3] .smooth, .unregister Sample.peer]
    Sample.content.WellFormed ∧ (t.pick Sample.peer 3).1 = .ok (some ⟨0, 0, 2⟩) ∧
      ((u.after between).pick other 1003).1 = .ok (some ⟨0, 0, 2⟩) ∧
      (∀ e ∈ u.log between, ¬ e.HandsOut (0, 0)) ∧
      ((3 + 1000 ≤ 1003 ∧ ∀ e ∈ u.log between, ¬ e.Receives (0, 0)) ∨
        ∃ e ∈ u.log between, e.Resets 0) := by
  intro other t u between
  have picked : (t.pick Sample.peer 3).1 = .ok (some ⟨0, 0, 2⟩) := by decide +kernel
  have again : ((u.after between).pick other 1003).1 = .ok (some ⟨0, 0, 2⟩) := by decide +kernel
  have single : (u.pick other 4).1 = .ok (some ⟨1, 0, 1⟩) := by decide +kernel
  have elsewhere : ∀ e ∈ u.log between, ¬ e.HandsOut (0, 0) := by
    rintro e member ⟨r, handed, place⟩
    simp only [between, log, call, List.mem_cons, List.not_mem_nil, or_false] at member
    rcases member with rfl | rfl | rfl
    · rw [single] at handed
      cases handed
      cases place
    · cases handed
    · cases handed
  exact ⟨Sample.wellFormed, picked, again, elsewhere,
    (handed_out_again Sample.wellFormed 4 1000 (.ofContent "out" 3 [9])
      [.register Sample.peer [192], .register other [192]] Sample.peer 3 ⟨0, 0, 2⟩ picked).2.2
      between other 1003 ⟨0, 0, 2⟩ (by decide) again rfl elsewhere⟩

end Transfer

end Swarm
