import Swarm.Proofs.Transfer.Accounting
import Swarm.Proofs.Transfer.Answers
import Swarm.Scenario.Feed

/-!
Answers with the right octets. Where every block that came in is a part of some data with the
digests of the content, a complete piece has its digest, so no piece is rejected and what is written
is the data at its place.

While no request waits too long, each request is for a block that nobody was asked for.
-/

namespace Swarm.Transfer

open Storage (DiskOutcome OutputFile)

structure Faithful (t : Transfer) (data : Bytes) : Prop where
  held : ∀ i k octets, t.block? i k = some (.held octets) →
    octets = t.blockOf data (t.content.request i k)
  finished : ∀ i ∈ t.finished, t.onDisk i = t.content.octets data i

def Sought (t : Transfer) (r : BlockRequest) : Prop :=
  ∃ k b, t.block? r.piece k = some b ∧ b ≠ .missing ∧ r = t.content.request r.piece k

structure FirstAsk (t next : Transfer) (r : BlockRequest) : Prop where
  block : ∃ k, r = t.content.request r.piece k ∧ t.block? r.piece k = some .missing ∧
    ∀ j m, next.block? j m = if j = r.piece ∧ m = k then some .requested else t.block? j m
  requests : next.requests = t.requests ++ [r]
  content : next.content = t.content
  file : next.file = t.file
  finished : next.finished = t.finished

structure TakenIn (t next : Transfer) (data : Bytes) (r : BlockRequest) : Prop where
  requests : next.requests.Perm (t.requests.erase r)
  sought : ∀ s, next.Sought s ↔ t.Sought s
  faithful : next.Faithful data

variable {t next : Transfer} {data : Bytes} {r : BlockRequest}

/-! ### Asking for blocks -/

namespace FirstAsk

theorem sought_iff (first : FirstAsk t next r) (s : BlockRequest) :
    next.Sought s ↔ t.Sought s ∨ s = r := by
  obtain ⟨k, request, free, blocks⟩ := first.block
  simp only [Sought, first.content, blocks]
  constructor
  · intro sought
    obtain ⟨m, b, place, known, same⟩ := sought
    by_cases here : s.piece = r.piece ∧ m = k
    · obtain ⟨piece, rfl⟩ := here
      rw [piece, ← request] at same
      exact Or.inr same
    · rw [if_neg here] at place
      exact Or.inl ⟨m, b, place, known, same⟩
  · intro either
    obtain ⟨m, b, place, known, same⟩ | rfl := either
    · refine ⟨m, b, ?_, known, same⟩
      rw [if_neg, place]
      rintro ⟨piece, rfl⟩
      rw [piece, free] at place
      cases place
      exact known rfl
    · exact ⟨k, .requested, if_pos ⟨rfl, rfl⟩, by simp, request⟩

theorem not_sought (first : FirstAsk t next r) : ¬ t.Sought r := by
  obtain ⟨k, request, free, -⟩ := first.block
  rintro ⟨m, b, place, known, same⟩
  rw [request] at same
  cases Content.request_injective same
  cases place.symm.trans free
  exact known rfl

theorem faithful (first : FirstAsk t next r) (before : t.Faithful data) : next.Faithful data := by
  obtain ⟨k, -, -, blocks⟩ := first.block
  constructor
  · intro i m octets place
    rw [blocks] at place
    split at place
    next => cases place
    next =>
      rw [blockOf, first.content]
      exact before.held i m octets place
  · intro i done
    rw [first.finished] at done
    rw [onDisk, first.content, first.file]
    exact before.finished i done

end FirstAsk

/-- While no request waits too long, a peer is asked for nothing, or for a block that nobody was
asked for. -/
theorem Sound.pick_of_young (sound : t.Sound) {peer : PeerId} {now : Nat}
    (known : t.isRegistered peer = true)
    (young : ∀ o ∈ t.openRequests, now - o.issuedAt < t.requestTimeout) :
    t.pick peer now = (.ok none, t) ∨
      ∃ r next, t.pick peer now = (.ok (some r), next) ∧ FirstAsk t next r := by
  -- Beginning a piece changes nothing of what counts here.
  have first : ∀ {u : Transfer} {i k : Nat} {p : Piece}, u.pieces = t.pieces →
      u.requests = t.requests → u.content = t.content → u.file = t.file →
      u.finished = t.finished → t.pieces[i]? = some p → p.blocks[k]? = some .missing →
      FirstAsk t (u.ask i p k now) (p.requestFor k) := by
    intro u i k p pieces requests content file finished found free
    have inside := (List.getElem?_eq_some_iff.1 free).1
    have request := sound.requestFor_eq_request found inside
    constructor
    case block =>
      rw [request]
      refine ⟨k, rfl, by rwa [Content.request, block?_eq found], ?_⟩
      intro j m
      rw [block?_ask (pieces ▸ found) free, block?_of_pieces_eq pieces]
      rfl
    case requests => rw [requests_ask, requests]
    case content => exact content
    case file => exact file
    case finished => exact finished
  cases picked : t.pick peer now with
  | mk answer next =>
    cases sound.pick_step picked with
    | unknown absent =>
      rw [isRegistered, absent] at known
      cases known
    | nothing => exact Or.inl rfl
    | @again bits k o _ out expired =>
      have late := (canReissue_iff.1 expired).2
      have early := young o (List.mem_of_getElem? out)
      omega
    | ongoing _ _ _ _ found free =>
      exact Or.inr ⟨_, _, rfl, first rfl rfl rfl rfl rfl found free⟩
    | new _ _ _ _ found free =>
      exact Or.inr ⟨_, _, rfl, first rfl rfl rfl rfl rfl found free⟩

/-! ### Answering with the right octets -/

theorem length_blockOf (wf : t.content.WellFormed) (describes : t.content.Describes data)
    (block : t.content.HasBlock r) : (t.blockOf data r).length = r.length := by
  obtain ⟨known, k, inside, request⟩ := block
  have room := wf.pieceOffset_add_sizeAt_le known
  have size := describes.length
  have length : r.length = min blockSize (t.content.sizeAt r.piece - r.offset) := by
    rw [request]
    rfl
  rw [blockOf, List.length_take, List.length_drop]
  omega

namespace Sound

/-- When a block comes in, its request is the only one that goes. -/
theorem requests_dropBlock_perm (sound : t.Sound) (out : r ∈ t.requests) :
    ((dropBlock r.piece r.offset t.openRequests).map (·.request)).Perm (t.requests.erase r) := by
  have nodup : t.requests.Nodup := List.Nodup.of_map _ sound.places
  refine (List.perm_ext_iff_of_nodup (nodup.sublist (List.filter_sublist.map _))
    (nodup.erase r)).2 ?_
  intro s
  refine mem_requests_dropBlock.trans ?_
  rw [nodup.mem_erase_iff, ← requests]
  constructor
  · intro kept
    obtain ⟨member, apart⟩ := kept
    refine ⟨?_, member⟩
    rintro rfl
    exact apart ⟨rfl, rfl⟩
  · intro kept
    obtain ⟨other, member⟩ := kept
    refine ⟨member, fun same => other ?_⟩
    exact List.inj_on_of_nodup_map sound.places member out (Prod.ext same.1 same.2)

section Block

variable {i k : Nat} {p : Piece} {octets : Bytes} {file : OutputFile}

theorem data_eq_octets (sound : t.Sound) (faithful : t.Faithful data) (begun : i ∈ t.ongoing)
    (found : t.pieces[i]? = some p) (right : octets = t.blockOf data (t.content.request i k))
    (complete : (p.modify k fun _ => .held octets).isComplete = true) :
    (p.modify k fun _ => .held octets).data = t.content.octets data i := by
  have suits := sound.suits i p found
  have same := Piece.same_modify p k fun _ => .held octets
  rw [Piece.data_eq_slice data (t.content.pieceOffset i) ?_, same.length, suits.length]
  · rfl
  intro j b place
  rw [same.blockLength, Piece.blockLength, suits.length]
  have arrived : b.isRetrieved = true :=
    List.all_eq_true.1 complete b (List.mem_of_getElem? place)
  rcases Piece.blocks_modify_cases place with ⟨rfl, _, _, rfl⟩ | ⟨_, before⟩
  · rw [right]
    rfl
  · obtain ⟨held, rfl⟩ :=
      Block.exists_held arrived ((suits.filling begun).kept b (List.mem_of_getElem? before))
    rw [faithful.held i j held (by rwa [block?_eq found])]
    rfl

theorem takenIn_store (sound : t.Sound) (faithful : t.Faithful data)
    (found : t.pieces[i]? = some p) (asked : p.blocks[k]? = some .requested)
    (right : octets = t.blockOf data (t.content.request i k))
    (out : t.content.request i k ∈ t.requests) :
    TakenIn t (t.store i p k octets) data (t.content.request i k) := by
  have inside := (List.getElem?_eq_some_iff.1 asked).1
  constructor
  case requests => exact sound.requests_dropBlock_perm out
  case sought =>
    intro s
    simp only [Sought, block?_store found inside]
    constructor
    · intro sought
      obtain ⟨m, b, place, known, same⟩ := sought
      by_cases here : s.piece = i ∧ m = k
      · obtain ⟨piece, rfl⟩ := here
        refine ⟨m, .requested, ?_, by simp, same⟩
        rwa [piece, block?_eq found]
      · rw [if_neg here] at place
        exact ⟨m, b, place, known, same⟩
    · intro sought
      obtain ⟨m, b, place, known, same⟩ := sought
      by_cases here : s.piece = i ∧ m = k
      · exact ⟨m, _, if_pos here, by simp, same⟩
      · exact ⟨m, b, by rwa [if_neg here], known, same⟩
  case faithful =>
    refine ⟨?_, faithful.finished⟩
    intro j m held place
    rw [block?_store found inside] at place
    split at place
    next here =>
      obtain ⟨rfl, rfl⟩ := here
      cases place
      exact right
    next => exact faithful.held j m held place

theorem takenIn_conclude (sound : t.Sound) (faithful : t.Faithful data)
    (found : t.pieces[i]? = some p) (asked : p.blocks[k]? = some .requested)
    (complete : (p.modify k fun _ => .held octets).isComplete = true)
    (out : t.content.request i k ∈ t.requests)
    (kept : ∀ j ∈ t.finished, (t.conclude i p k octets file).onDisk j = t.onDisk j)
    (new : (t.conclude i p k octets file).onDisk i = t.content.octets data i) :
    TakenIn t (t.conclude i p k octets file) data (t.content.request i k) := by
  -- Every other block of the piece has arrived, and this one was asked for.
  have known : ∀ m b, t.block? i m = some b → b ≠ .missing := by
    rintro m b place rfl
    rw [block?_eq found] at place
    have other : m ≠ k := by
      rintro rfl
      cases place.symm.trans asked
    have arrived := List.all_eq_true.1 complete .missing
      (List.mem_of_getElem? ((Piece.blocks_modify_off p _ other).trans place))
    cases arrived
  constructor
  case requests => exact sound.requests_dropBlock_perm out
  case sought =>
    intro s
    simp only [Sought, block?_conclude found complete]
    by_cases here : s.piece = i
    · simp only [if_pos here, Option.map_eq_some_iff]
      constructor
      · intro sought
        obtain ⟨m, _, ⟨b, place, -⟩, -, same⟩ := sought
        exact ⟨m, b, place, known m b (here ▸ place), same⟩
      · intro sought
        obtain ⟨m, b, place, -, same⟩ := sought
        exact ⟨m, .released, ⟨b, place, rfl⟩, by simp, same⟩
    · simp only [if_neg here]
      exact Iff.rfl
  case faithful =>
    constructor
    · intro j m held place
      rw [block?_conclude found complete] at place
      split at place
      next =>
        obtain ⟨_, _, wrong⟩ := Option.map_eq_some_iff.1 place
        cases wrong
      next => exact faithful.held j m held place
    · intro j done
      rcases List.mem_cons.1 done with rfl | before
      · exact new
      · exact (kept j before).trans (faithful.finished j before)

/-- A piece that a block of the data completes has its digest. -/
theorem hashMatches_of_faithful (sound : t.Sound) (describes : t.content.Describes data)
    (faithful : t.Faithful data) (begun : i ∈ t.ongoing) (found : t.pieces[i]? = some p)
    (right : octets = t.blockOf data (t.content.request i k))
    (complete : (p.modify k fun _ => .held octets).isComplete = true) :
    (p.modify k fun _ => .held octets).hashMatches = true := by
  have digest := describes.pieceHash? i (sound.lt_of_ongoing begun)
  rw [(sound.suits i p found).hash] at digest
  rw [Piece.hashMatches, sound.data_eq_octets faithful begun found right complete, beq_iff_eq]
  exact (Option.some.inj digest).symm

theorem onDisk_conclude (sound : t.Sound) (faithful : t.Faithful data) (begun : i ∈ t.ongoing)
    (found : t.pieces[i]? = some p) (right : octets = t.blockOf data (t.content.request i k))
    (fits : octets.length = p.blockLength k)
    (complete : (p.modify k fun _ => .held octets).isComplete = true) {disk : DiskOutcome}
    (written : t.file.writeAt disk (t.content.pieceOffset i)
      (p.modify k fun _ => .held octets).data = (.ok (), file)) :
    (t.conclude i p k octets file).onDisk i = t.content.octets data i := by
  obtain ⟨holds, put⟩ := OutputFile.writeAt_eq_ok written
  have read := OutputFile.range_put_self holds
  rw [sound.length_data begun found fits complete, ← put,
    sound.data_eq_octets faithful begun found right complete] at read
  exact read

end Block

theorem deliver_due (sound : t.Sound) (full : t.file.length = t.content.length)
    (describes : t.content.Describes data) (faithful : t.Faithful data) (out : r ∈ t.requests)
    {answer : Except TransferError Delivery}
    (delivered : t.deliver r.piece r.offset (t.blockOf data r) .smooth = (answer, next)) :
    (answer = .ok .stored ∨ answer = .ok .verified) ∧ TakenIn t next data r := by
  obtain ⟨k, place, request⟩ := sound.mem_requests_iff_block?.1 out
  have block : t.content.HasBlock r := sound.hasBlock_iff.2 ⟨k, _, place, request⟩
  have size := length_blockOf sound.wellFormed describes block
  obtain ⟨p, found, asked⟩ := block?_eq_some_iff.1 place
  have begun := sound.ongoing_of_requested found (List.mem_of_getElem? asked)
  have step := sound.deliver_step delivered
  have change := step.fileStep sound full
  generalize r.piece = i at request found begun step
  subst request
  cases step with
  | late done => exact absurd done (sound.ongoing_disjoint_finished begun)
  | unsolicited _ unbegun => exact absurd begun unbegun
  | refused _ found' unfit =>
    obtain ⟨q, taken⟩ := sound.receive_of_hasBlock block found' size
    rw [unfit] at taken
    cases taken
  | stored _ found' start =>
    cases found.symm.trans found'
    cases Piece.blockOffset_injective start
    exact ⟨Or.inl rfl, sound.takenIn_store faithful found asked rfl out⟩
  | rejected _ found' start _ _ complete wrong =>
    cases found.symm.trans found'
    cases Piece.blockOffset_injective start
    rw [sound.hashMatches_of_faithful describes faithful begun found rfl complete] at wrong
    cases wrong
  | unwritten _ found' start _ fits complete _ written =>
    cases found.symm.trans found'
    cases Piece.blockOffset_injective start
    rw [sound.writeAt_of_writes full begun found fits complete DiskOutcome.writes_smooth] at written
    cases written
  | written _ found' start _ fits complete _ written verified =>
    cases found.symm.trans found'
    cases Piece.blockOffset_injective start
    refine ⟨?_, sound.takenIn_conclude faithful found asked complete out change.kept
      (sound.onDisk_conclude faithful begun found rfl fits complete written)⟩
    obtain verified | ⟨_, -, -, failed⟩ := verified
    · exact Or.inr verified
    · cases failed

end Sound

end Swarm.Transfer
