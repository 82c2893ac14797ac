import Swarm.Proofs.Transfer.Sound

/-!
The changes that calls make to a download, each of which keeps it sound.

A change touches one piece at most. What has to be shown of it is that this piece looks as its pool
then says, and that the requests for this piece are those it asks for; `Sound.replace` does the rest.
-/

namespace Swarm.Transfer

theorem modifyPiece_eq {t : Transfer} {i : Nat} {p : Piece} (f : Piece → Piece)
    (found : t.pieces[i]? = some p) : t.modifyPiece i f = { t with pieces := t.pieces.set i (f p) } := by
  have same : t.pieces.modify i f = t.pieces.set i (f p) := by
    rw [List.modify_eq_set_getElem?, found]
    rfl
  simp only [modifyPiece, same]

def renew (t : Transfer) (k : Nat) (o : OpenRequest) (now : Nat) : Transfer :=
  { t with openRequests := t.openRequests.set k { o with issuedAt := now } }

def ask (t : Transfer) (i : Nat) (p : Piece) (k now : Nat) : Transfer :=
  { t with
    pieces := t.pieces.set i (p.modify k Block.request)
    openRequests := t.openRequests ++ [⟨p.requestFor k, now⟩] }

def store (t : Transfer) (i : Nat) (p : Piece) (k : Nat) (data : Bytes) : Transfer :=
  { t with
    pieces := t.pieces.set i (p.modify k fun _ => .held data)
    openRequests := dropBlock i (Piece.blockOffset k) t.openRequests }

/-- Piece `i` is begun again, whatever the file holds by now. -/
def discard (t : Transfer) (i : Nat) (p : Piece) (file : Storage.OutputFile) : Transfer :=
  { t with
    pieces := t.pieces.set i p.reset
    openRequests := dropPiece i t.openRequests
    file := file }

def conclude (t : Transfer) (i : Nat) (p : Piece) (k : Nat) (data : Bytes)
    (file : Storage.OutputFile) : Transfer :=
  { t with
    pieces := t.pieces.set i (p.modify k fun _ => .held data).release
    ongoing := t.ongoing.filter (· != i)
    finished := i :: t.finished
    openRequests := dropBlock i (Piece.blockOffset k) t.openRequests
    downloaded := t.downloaded + (p.modify k fun _ => .held data).data.length
    file := file }

section Requests

variable {t : Transfer} {i k : Nat} {p : Piece}

theorem requests_renew {o : OpenRequest} (out : t.openRequests[k]? = some o) (now : Nat) :
    (t.renew k o now).requests = t.requests := by
  obtain ⟨inside, rfl⟩ := List.getElem?_eq_some_iff.1 out
  have listed : k < (t.openRequests.map (·.request)).length := by rwa [List.length_map]
  have same : t.openRequests[k].request = (t.openRequests.map (·.request))[k] :=
    (List.getElem_map _).symm
  simp only [requests, renew, List.map_set]
  rw [same, List.set_getElem_self listed]

theorem requests_ask (t : Transfer) (i : Nat) (p : Piece) (k now : Nat) :
    (t.ask i p k now).requests = t.requests ++ [p.requestFor k] := by
  simp only [requests, ask, List.map_append, List.map_cons, List.map_nil]

theorem mem_requests_dropBlock {offset : Nat} {r : BlockRequest} {requests : List OpenRequest} :
    r ∈ (dropBlock i offset requests).map (·.request) ↔
      r ∈ requests.map (·.request) ∧ ¬ (r.piece = i ∧ r.offset = offset) := by
  simp only [dropBlock, List.mem_map, List.mem_filter, Bool.not_eq_true', Bool.and_eq_false_iff,
    beq_eq_false_iff_ne, not_and_or]
  constructor
  · intro member
    obtain ⟨o, ⟨out, apart⟩, rfl⟩ := member
    exact ⟨⟨o, out, rfl⟩, apart⟩
  · intro member
    obtain ⟨⟨o, out, rfl⟩, apart⟩ := member
    exact ⟨o, ⟨out, apart⟩, rfl⟩

theorem mem_requests_discard {file : Storage.OutputFile} {r : BlockRequest} :
    r ∈ (t.discard i p file).requests ↔ r ∈ t.requests ∧ r.piece ≠ i := by
  simp only [requests, discard, dropPiece, List.mem_map, List.mem_filter, bne_iff_ne]
  constructor
  · intro member
    obtain ⟨o, ⟨out, apart⟩, rfl⟩ := member
    exact ⟨⟨o, out, rfl⟩, apart⟩
  · intro member
    obtain ⟨⟨o, out, rfl⟩, apart⟩ := member
    exact ⟨o, ⟨out, apart⟩, rfl⟩

end Requests

namespace Sound

open scoped List

variable {t t' : Transfer} {i k : Nat} {p q : Piece}

theorem lt_of_piece (sound : t.Sound) (found : t.pieces[i]? = some p) : i < t.totalPieces := by
  rw [← sound.pieces_length]
  exact (List.getElem?_eq_some_iff.1 found).1

theorem length_pos (sound : t.Sound) (found : t.pieces[i]? = some p) : 0 < p.length := by
  rw [(sound.suits i p found).length]
  exact sound.wellFormed.sizeAt_pos (sound.lt_of_piece found)

theorem reach (sound : t.Sound) (found : t.pieces[i]? = some p) : p.length ≤ UInt32.size := by
  rw [(sound.suits i p found).length]
  exact sound.wellFormed.sizeAt_le i

theorem requestFor_eq (sound : t.Sound) (found : t.pieces[i]? = some p)
    (inside : k < p.blocks.length) :
    p.requestFor k = ⟨i, Piece.blockOffset k, p.blockLength k⟩ := by
  rw [Piece.requestFor_eq (sound.reach found) inside, (sound.suits i p found).index]

theorem mem_requests (sound : t.Sound) (found : t.pieces[i]? = some p) {r : BlockRequest}
    (here : r.piece = i) : r ∈ t.requests ↔ p.Asks r := by
  subst here
  rw [sound.requests_iff r]
  constructor
  · intro asks
    obtain ⟨other, known, asked⟩ := asks
    rw [found] at known
    cases known
    exact asked
  · intro asked
    exact ⟨p, found, asked⟩

theorem requested_of_mem (sound : t.Sound) (found : t.pieces[i]? = some p) {r : BlockRequest}
    (out : r ∈ t.requests) (place : r.place = (i, Piece.blockOffset k)) :
    p.blocks[k]? = some .requested := by
  obtain ⟨here, start⟩ := Prod.mk.inj place
  obtain ⟨j, asked, rfl⟩ := (sound.mem_requests found here).1 out
  rw [sound.requestFor_eq found (List.getElem?_eq_some_iff.1 asked).1] at start
  rwa [← Piece.blockOffset_injective start]

/-- A change of one piece, and of the pools only as far as that piece goes, keeps a download sound
if the piece and the requests for it fit together again. -/
theorem replace (sound : t.Sound) (found : t.pieces[i]? = some p) (same : Piece.Same q p)
    (content : t'.content = t.content) (pieces : t'.pieces = t.pieces.set i q)
    (pools : (t'.missing ++ (t'.ongoing ++ t'.finished)).Perm
      (t.missing ++ (t.ongoing ++ t.finished)))
    (elsewhere : ∀ j, j ≠ i → (j ∈ t'.missing → j ∈ t.missing) ∧
      (j ∈ t'.ongoing → j ∈ t.ongoing) ∧ (j ∈ t'.finished → j ∈ t.finished))
    (fresh : i ∈ t'.missing → q.Fresh) (filling : i ∈ t'.ongoing → q.Filling)
    (done : i ∈ t'.finished → q.Done)
    (places : (t'.requests.map BlockRequest.place).Nodup)
    (asks : ∀ r, r ∈ t'.requests ↔ if r.piece = i then q.Asks r else r ∈ t.requests) :
    t'.Sound := by
  have inside : i < t.pieces.length := (List.getElem?_eq_some_iff.1 found).1
  have at_i : t'.pieces[i]? = some q := by rw [pieces, List.getElem?_set_self inside]
  have at_other : ∀ j, j ≠ i → t'.pieces[j]? = t.pieces[j]? := by
    intro j apart
    rw [pieces, List.getElem?_set_ne apart.symm]
  have old := sound.suits i p found
  constructor
  case wellFormed =>
    rw [content]
    exact sound.wellFormed
  case pieces_length =>
    rw [pieces, List.length_set, sound.pieces_length, totalPieces, totalPieces, content]
  case suits =>
    intro j r there
    by_cases here : j = i
    · subst here
      rw [at_i] at there
      cases there
      exact ⟨same.index.trans old.index, by rw [same.length, old.length, content],
        by rw [content, old.hash, same.hash], fresh, filling, done⟩
    · rw [at_other j here] at there
      have kept := sound.suits j r there
      obtain ⟨inMissing, inOngoing, inFinished⟩ := elsewhere j here
      exact ⟨kept.index, by rw [content, kept.length], by rw [content, kept.hash],
        fun member => kept.fresh (inMissing member), fun member => kept.filling (inOngoing member),
        fun member => kept.done (inFinished member)⟩
  case pools =>
    rw [totalPieces, content]
    exact pools.trans sound.pools
  case places => exact places
  case requests_iff =>
    intro r
    rw [asks r]
    by_cases here : r.piece = i
    · rw [if_pos here, Asked, here, at_i]
      simp
    · rw [if_neg here, sound.requests_iff r, Asked, Asked, at_other _ here]

/-- A change that touches peers, times and the file only keeps a download sound. -/
theorem of_same (sound : t.Sound) (content : t'.content = t.content)
    (pieces : t'.pieces = t.pieces) (missing : t'.missing = t.missing)
    (ongoing : t'.ongoing = t.ongoing) (finished : t'.finished = t.finished)
    (requests : t'.requests = t.requests) : t'.Sound := by
  constructor
  case wellFormed => rw [content]; exact sound.wellFormed
  case pieces_length => rw [pieces, totalPieces, content]; exact sound.pieces_length
  case suits =>
    intro j r there
    rw [pieces] at there
    have kept := sound.suits j r there
    exact ⟨kept.index, by rw [content, kept.length], by rw [content, kept.hash],
      by rw [missing]; exact kept.fresh, by rw [ongoing]; exact kept.filling,
      by rw [finished]; exact kept.done⟩
  case pools => rw [missing, ongoing, finished, totalPieces, content]; exact sound.pools
  case places => rw [requests]; exact sound.places
  case requests_iff => intro r; rw [requests, sound.requests_iff r, Asked, Asked, pieces]

theorem places_of_sublist (sound : t.Sound) {requests : List OpenRequest}
    (fewer : requests.Sublist t.openRequests) :
    ((requests.map (·.request)).map BlockRequest.place).Nodup :=
  sound.places.sublist ((fewer.map _).map _)

theorem mem_requests_dropBlock_iff (sound : t.Sound) (found : t.pieces[i]? = some p)
    (data : Bytes) (r : BlockRequest) :
    r ∈ (dropBlock i (Piece.blockOffset k) t.openRequests).map (·.request) ↔
      if r.piece = i then (p.modify k fun _ => .held data).Asks r else r ∈ t.requests := by
  rw [mem_requests_dropBlock, ← requests]
  by_cases here : r.piece = i
  · rw [if_pos here, sound.mem_requests found here,
      Piece.asks_modify_held (sound.reach found), here]
    simp
  · rw [if_neg here]
    simp [here]

/-! ### What calls do -/

theorem start {c : Content} (wf : c.WellFormed) (maxPeers requestTimeout : Nat)
    (file : Storage.OutputFile) : (Transfer.start c maxPeers requestTimeout file).Sound := by
  have piece_at : ∀ (i : Nat) (p : Piece),
      (Transfer.start c maxPeers requestTimeout file).pieces[i]? = some p →
      ∃ hash, c.hashes[i]? = some hash ∧ p = Piece.empty i (c.sizeAt i) hash := by
    intro i p found
    simp only [Transfer.start, emptyPieces, List.getElem?_mapIdx, Option.map_eq_some_iff] at found
    obtain ⟨hash, known, rfl⟩ := found
    exact ⟨hash, known, rfl⟩
  have fresh : ∀ (i : Nat) (p : Piece),
      (Transfer.start c maxPeers requestTimeout file).pieces[i]? = some p → p.Fresh := by
    intro i p found b member
    obtain ⟨hash, _, rfl⟩ := piece_at i p found
    exact List.eq_of_mem_replicate member
  constructor
  case wellFormed => exact wf
  case pieces_length => simp [Transfer.start, emptyPieces, totalPieces, Content.pieceCount]
  case suits =>
    intro i p found
    obtain ⟨hash, known, rfl⟩ := piece_at i p found
    exact ⟨rfl, rfl, known, fun _ => fresh i _ found, fun begun => absurd begun (by simp [Transfer.start]),
      fun done => absurd done (by simp [Transfer.start])⟩
  case pools => simp [Transfer.start, totalPieces]
  case places => simp [Transfer.start, requests]
  case requests_iff =>
    intro r
    simp only [Transfer.start, requests, List.map_nil, List.not_mem_nil, false_iff]
    intro block
    obtain ⟨p, found, asked⟩ := block
    exact (fresh _ p found).not_asks r asked

theorem renew (sound : t.Sound) {o : OpenRequest} (out : t.openRequests[k]? = some o) (now : Nat) :
    (t.renew k o now).Sound :=
  sound.of_same rfl rfl rfl rfl rfl (requests_renew out now)

theorem startPiece (sound : t.Sound) (waiting : i ∈ t.missing) : (t.startPiece i).Sound := by
  obtain ⟨p, found, fresh⟩ := sound.exists_fresh waiting
  obtain ⟨inside, rfl⟩ := List.getElem?_eq_some_iff.1 found
  apply sound.replace found
  case same => exact ⟨rfl, rfl, rfl⟩
  case content => rfl
  case pieces => exact (List.set_getElem_self inside).symm
  case pools =>
    calc
      t.missing.erase i ++ ((t.ongoing ++ [i]) ++ t.finished)
      _ = t.missing.erase i ++ (t.ongoing ++ i :: t.finished) := by simp
      _ ~ t.missing.erase i ++ i :: (t.ongoing ++ t.finished) := List.perm_middle.append_left _
      _ ~ (i :: t.missing.erase i) ++ (t.ongoing ++ t.finished) := List.perm_middle
      _ ~ t.missing ++ (t.ongoing ++ t.finished) :=
        (List.perm_cons_erase waiting).symm.append_right _
  case elsewhere =>
    intro j apart
    refine ⟨List.mem_of_mem_erase, ?_, id⟩
    intro member
    rcases List.mem_append.1 member with old | new
    · exact old
    · exact absurd (List.mem_singleton.1 new) apart
  case fresh => exact fun member => absurd rfl (sound.missing_nodup.mem_erase_iff.1 member).1
  case filling => exact fun _ => fresh.filling (sound.length_pos found)
  case done => exact fun member => absurd member (sound.missing_disjoint_finished waiting)
  case places => exact sound.places
  case asks =>
    intro r
    split
    next here => exact sound.mem_requests found here
    next => exact Iff.rfl

theorem ask (sound : t.Sound) (begun : i ∈ t.ongoing) (found : t.pieces[i]? = some p)
    (free : p.blocks[k]? = some .missing) (now : Nat) : (t.ask i p k now).Sound := by
  have inside : k < p.blocks.length := (List.getElem?_eq_some_iff.1 free).1
  have request := sound.requestFor_eq found inside
  have filling := (sound.suits i p found).filling begun
  -- A request for this place that is out would mean that the block is not free.
  have new : ∀ r ∈ t.requests, r.place ≠ (i, Piece.blockOffset k) := by
    intro r out place
    rw [sound.requested_of_mem found out place] at free
    cases free
  apply sound.replace found
  case same => exact Piece.same_modify p k Block.request
  case content => rfl
  case pieces => rfl
  case pools => exact .refl _
  case elsewhere => exact fun _ _ => ⟨id, id, id⟩
  case fresh => exact fun member => absurd begun (sound.missing_disjoint_ongoing member)
  case filling => exact fun _ => filling.modify_request free
  case done => exact fun member => absurd member (sound.ongoing_disjoint_finished begun)
  case places =>
    rw [requests_ask, List.map_append]
    refine List.nodup_append'.2 ⟨sound.places, List.nodup_singleton _, ?_⟩
    intro place old last
    obtain ⟨r, out, rfl⟩ := List.mem_map.1 old
    refine new r out ((List.mem_singleton.1 last).trans ?_)
    rw [request]
    rfl
  case asks =>
    intro r
    rw [requests_ask, List.mem_append, List.mem_singleton, Piece.asks_modify_request free]
    split
    next piece => rw [sound.mem_requests found piece]
    next other =>
      have apart : r ≠ p.requestFor k := by
        intro same
        subst same
        exact other (by rw [request])
      simp [apart]

theorem store (sound : t.Sound) (begun : i ∈ t.ongoing) (found : t.pieces[i]? = some p)
    {data : Bytes} (fits : data.length = p.blockLength k)
    (unfinished : (p.modify k fun _ => .held data).isComplete = false) :
    (t.store i p k data).Sound := by
  have filling := (sound.suits i p found).filling begun
  apply sound.replace found
  case same => exact Piece.same_modify p k fun _ => .held data
  case content => rfl
  case pieces => rfl
  case pools => exact .refl _
  case elsewhere => exact fun _ _ => ⟨id, id, id⟩
  case fresh => exact fun member => absurd begun (sound.missing_disjoint_ongoing member)
  case filling => exact fun _ => filling.modify_held fits unfinished
  case done => exact fun member => absurd member (sound.ongoing_disjoint_finished begun)
  case places => exact sound.places_of_sublist List.filter_sublist
  case asks => exact sound.mem_requests_dropBlock_iff found data

theorem discard (sound : t.Sound) (begun : i ∈ t.ongoing) (found : t.pieces[i]? = some p)
    (file : Storage.OutputFile) : (t.discard i p file).Sound := by
  have fresh := Piece.fresh_reset p
  have filled : 0 < p.reset.length := by
    show 0 < p.length
    exact sound.length_pos found
  apply sound.replace found
  case same => exact Piece.same_map p fun _ => .missing
  case content => rfl
  case pieces => rfl
  case pools => exact .refl _
  case elsewhere => exact fun _ _ => ⟨id, id, id⟩
  case fresh => exact fun _ => fresh
  case filling => exact fun _ => fresh.filling filled
  case done => exact fun member => absurd member (sound.ongoing_disjoint_finished begun)
  case places => exact sound.places_of_sublist List.filter_sublist
  case asks =>
    intro r
    rw [mem_requests_discard]
    split
    next here => exact iff_of_false (fun member => member.2 here) (fresh.not_asks r)
    next other => exact and_iff_left other

theorem conclude (sound : t.Sound) (begun : i ∈ t.ongoing) (found : t.pieces[i]? = some p)
    {data : Bytes} (complete : (p.modify k fun _ => .held data).isComplete = true)
    (file : Storage.OutputFile) : (t.conclude i p k data file).Sound := by
  have arrived : ∀ b ∈ (p.modify k fun _ => .held data).blocks, b.isRetrieved = true :=
    List.all_eq_true.1 complete
  have done := Piece.done_release arrived
  have gone : t.ongoing.filter (· != i) = t.ongoing.erase i :=
    (sound.ongoing_nodup.erase_eq_filter i).symm
  apply sound.replace found
  case same => exact (Piece.same_map _ Block.release).trans (Piece.same_modify p k fun _ => .held data)
  case content => rfl
  case pieces => rfl
  case pools =>
    calc
      t.missing ++ (t.ongoing.filter (· != i) ++ i :: t.finished)
      _ = t.missing ++ (t.ongoing.erase i ++ i :: t.finished) := by rw [gone]
      _ ~ t.missing ++ (i :: t.ongoing.erase i ++ t.finished) := List.perm_middle.append_left _
      _ ~ t.missing ++ (t.ongoing ++ t.finished) :=
        ((List.perm_cons_erase begun).symm.append_right _).append_left _
  case elsewhere =>
    intro j apart
    exact ⟨id, fun member => (List.mem_filter.1 member).1,
      fun member => (List.mem_cons.1 member).resolve_left apart⟩
  case fresh => exact fun member => absurd begun (sound.missing_disjoint_ongoing member)
  case filling => exact fun member => by simpa using (List.mem_filter.1 member).2
  case done => exact fun _ => done
  case places => exact sound.places_of_sublist List.filter_sublist
  case asks =>
    intro r
    refine (sound.mem_requests_dropBlock_iff found data r).trans ?_
    have none_out : ∀ b ∈ (p.modify k fun _ => .held data).blocks, b ≠ .requested := by
      intro b member same
      subst same
      cases arrived _ member
    split
    next => exact iff_of_false (Piece.not_asks_of_forall_ne none_out r) (done.not_asks r)
    next => exact Iff.rfl

end Sound

end Swarm.Transfer
