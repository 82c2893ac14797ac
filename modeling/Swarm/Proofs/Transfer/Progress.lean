import Swarm.Proofs.Transfer.Requests

/-!
When there is nothing to ask a peer for. No piece that a peer has is passed over: it is done, or
each block of it has come in or is out on a request that has not waited too long. Once all requests
have, a peer with an unfinished piece is asked for a block.
-/

namespace Swarm.Transfer

open Storage (OutputFile)

def Awaited (t : Transfer) (now : Nat) (r : BlockRequest) : Prop :=
  ∃ o ∈ t.openRequests, o.request = r ∧ now - o.issuedAt < t.requestTimeout

def Settled (t : Transfer) (now i : Nat) : Prop :=
  i ∈ t.finished ∨ i ∈ t.ongoing ∧ ∃ p, t.pieces[i]? = some p ∧ ∀ k b, p.blocks[k]? = some b →
    b.isRetrieved ∨ b = .requested ∧ t.Awaited now ⟨i, k * blockSize, p.blockLength k⟩

variable {t : Transfer} {peer : PeerId} {bits : Bytes} {now i : Nat}

theorem canReissue_iff {o : OpenRequest} : t.canReissue bits now o = true ↔
    Bitfield.has bits o.request.piece = true ∧ t.requestTimeout ≤ now - o.issuedAt := by
  simp only [canReissue, Bool.and_eq_true, decide_eq_true_eq]

theorem Settled.not_missing {p : Piece} (settled : t.Settled now i) (undone : i ∉ t.finished)
    (found : t.pieces[i]? = some p) : .missing ∉ p.blocks := by
  obtain ⟨_, q, known, blocks⟩ := settled.resolve_left undone
  rw [found] at known
  cases known
  intro free
  obtain ⟨k, place⟩ := List.mem_iff_getElem?.1 free
  rcases blocks k _ place with arrived | ⟨wrong, _⟩
  · cases arrived
  · cases wrong

namespace Sound

theorem eq_of_request_eq (sound : t.Sound) {o o' : OpenRequest} (out : o ∈ t.openRequests)
    (out' : o' ∈ t.openRequests) (same : o.request = o'.request) : o = o' := by
  have places := sound.places
  rw [requests, List.map_map] at places
  exact List.inj_on_of_nodup_map places out out' (congrArg BlockRequest.place same)

theorem not_settled_of_expired (sound : t.Sound) {o : OpenRequest} (out : o ∈ t.openRequests)
    (expired : t.requestTimeout ≤ now - o.issuedAt) : ¬ t.Settled now o.request.piece := by
  intro settled
  have listed : o.request ∈ t.requests := List.mem_map_of_mem out
  obtain ⟨p, k, found, asked, start, size⟩ := sound.mem_requests_iff.1 listed
  have begun := sound.ongoing_of_requested found (List.mem_of_getElem? asked)
  obtain ⟨_, q, known, blocks⟩ := settled.resolve_left (sound.ongoing_disjoint_finished begun)
  rw [found] at known
  cases known
  rcases blocks k _ asked with arrived | ⟨_, o', out', same, young⟩
  · cases arrived
  · have request : o.request = o'.request := by
      rw [same, ← size]
      exact congrArg (fun offset => BlockRequest.mk _ offset _) start
    rw [sound.eq_of_request_eq out out' request] at expired
    omega

/-- A piece that was begun, of which every block was asked for and no request has waited too long,
is settled. -/
theorem settled_of_ongoing (sound : t.Sound) (begun : i ∈ t.ongoing)
    (asked : ∀ p, t.pieces[i]? = some p → ∀ b ∈ p.blocks, b ≠ .missing)
    (young : ∀ o ∈ t.openRequests, o.request.piece = i → now - o.issuedAt < t.requestTimeout) :
    t.Settled now i := by
  obtain ⟨p, found⟩ := sound.exists_piece (sound.lt_of_ongoing begun)
  refine Or.inr ⟨begun, p, found, ?_⟩
  intro k b place
  cases b with
  | missing => exact absurd rfl (asked p found _ (List.mem_of_getElem? place))
  | requested =>
    -- A block that is waited for cannot be without its request.
    have listed : (⟨i, k * blockSize, p.blockLength k⟩ : BlockRequest) ∈ t.requests :=
      sound.mem_requests_iff.2 ⟨p, k, found, place, rfl, rfl⟩
    obtain ⟨o, out, request⟩ := List.mem_map.1 listed
    exact Or.inr ⟨rfl, o, out, request, young o out (congrArg BlockRequest.piece request)⟩
  | held data => exact Or.inl rfl
  | released => exact Or.inl rfl

theorem exists_pick_eq_ok (sound : t.Sound) (known : t.bitfield? peer = some bits) (now : Nat) :
    ∃ answer, (t.pick peer now).1 = .ok answer := by
  cases picked : t.pick peer now with
  | mk answer next =>
    cases sound.pick_step picked with
    | unknown absent =>
      rw [known] at absent
      cases absent
    | nothing => exact ⟨_, rfl⟩
    | again => exact ⟨_, rfl⟩
    | ongoing => exact ⟨_, rfl⟩
    | new => exact ⟨_, rfl⟩

theorem not_settled_of_pick (sound : t.Sound) (known : t.bitfield? peer = some bits)
    {r : BlockRequest} (picked : (t.pick peer now).1 = .ok (some r)) :
    r.piece < t.totalPieces ∧ Bitfield.has bits r.piece = true ∧ ¬ t.Settled now r.piece := by
  cases result : t.pick peer now with
  | mk answer next =>
    rw [result] at picked
    subst picked
    cases sound.pick_step result with
    | again same out expired =>
      cases known.symm.trans same
      have member := List.mem_of_getElem? out
      obtain ⟨has, old⟩ := canReissue_iff.1 expired
      obtain ⟨p, k, found, _⟩ := sound.mem_requests_iff.1 (List.mem_map_of_mem member)
      exact ⟨sound.lt_of_piece found, has, sound.not_settled_of_expired member old⟩
    | @ongoing _ i k p same _ begun has found free =>
      cases known.symm.trans same
      have here : (p.requestFor k).piece = i := (sound.suits i p found).index
      rw [here]
      refine ⟨sound.lt_of_piece found, has, ?_⟩
      intro settled
      exact settled.not_missing (sound.ongoing_disjoint_finished begun) found
        (List.mem_of_getElem? free)
    | @new _ i k p same _ waiting has found free =>
      cases known.symm.trans same
      have here : (p.requestFor k).piece = i := (sound.suits i p found).index
      rw [here]
      refine ⟨sound.lt_of_piece found, has, ?_⟩
      intro settled
      exact settled.not_missing (sound.missing_disjoint_finished waiting) found
        (List.mem_of_getElem? free)

theorem settled_of_pick (sound : t.Sound) (known : t.bitfield? peer = some bits)
    (picked : (t.pick peer now).1 = .ok none) (inside : i < t.totalPieces)
    (has : Bitfield.has bits i = true) : t.Settled now i := by
  cases result : t.pick peer now with
  | mk answer next =>
    rw [result] at picked
    subst picked
    cases sound.pick_step result with
    | nothing same young asked begun =>
      cases known.symm.trans same
      rcases sound.mem_pools.2 inside with waiting | ongoing | done
      · rw [begun i waiting] at has
        cases has
      · apply sound.settled_of_ongoing ongoing (asked i ongoing has)
        intro o out here
        subst here
        have kept := young o out
        rw [← Bool.not_eq_true, canReissue_iff, not_and, Nat.not_le] at kept
        exact kept has
      · exact Or.inl done

/-- A peer is asked for nothing exactly if all it has is settled. -/
theorem pick_eq_none_iff (sound : t.Sound) (known : t.bitfield? peer = some bits) (now : Nat) :
    (t.pick peer now).1 = .ok none ↔
      ∀ i < t.totalPieces, Bitfield.has bits i = true → t.Settled now i := by
  constructor
  · intro picked i inside has
    exact sound.settled_of_pick known picked inside has
  · intro settled
    obtain ⟨answer, picked⟩ := sound.exists_pick_eq_ok known now
    cases answer with
    | none => exact picked
    | some r =>
      obtain ⟨inside, has, open_⟩ := sound.not_settled_of_pick known picked
      exact absurd (settled r.piece inside has) open_

theorem not_settled_of_all_expired (sound : t.Sound) (undone : i ∉ t.finished)
    (expired : ∀ o ∈ t.openRequests, t.requestTimeout ≤ now - o.issuedAt) :
    ¬ t.Settled now i := by
  intro settled
  obtain ⟨begun, p, found, blocks⟩ := settled.resolve_left undone
  obtain ⟨b, member, unfinished⟩ := ((sound.suits i p found).filling begun).unfinished
  obtain ⟨k, place⟩ := List.mem_iff_getElem?.1 member
  rcases blocks k b place with arrived | ⟨_, o, out, _, young⟩
  · rw [arrived] at unfinished
    cases unfinished
  · have old := expired o out
    omega

end Sound

/-- In every state that a download comes to, a registered peer is asked for nothing exactly if each
piece it has is done, or was begun and has each block here or on a request that has not waited too
long. When all requests have waited too long, a peer that has an unfinished piece is asked for a
block. -/
theorem pick_none_iff_settled {c : Content} (wf : c.WellFormed) (maxPeers requestTimeout : Nat)
    (file : OutputFile) (calls : List Call) (peer : PeerId) (now : Nat) :
    let t := (start c maxPeers requestTimeout file).after calls
    ∀ bits, t.bitfield? peer = some bits →
      ((t.pick peer now).1 = .ok none ↔ ∀ i < c.pieceCount, Bitfield.has bits i →
        i ∈ t.finished ∨ i ∈ t.ongoing ∧ ∃ p, t.pieces[i]? = some p ∧
          ∀ k b, p.blocks[k]? = some b → b.isRetrieved ∨ b = .requested ∧
            ∃ o ∈ t.openRequests, o.request = ⟨i, k * blockSize, p.blockLength k⟩ ∧
              now - o.issuedAt < requestTimeout) ∧
      ((∀ o ∈ t.openRequests, requestTimeout ≤ now - o.issuedAt) →
        (∃ i < c.pieceCount, Bitfield.has bits i ∧ i ∉ t.finished) →
        ∃ r, (t.pick peer now).1 = .ok (some r)) := by
  intro t bits known
  have sound : t.Sound := sound_after wf maxPeers requestTimeout file calls
  obtain ⟨content, -, limit⟩ := (Sound.start wf maxPeers requestTimeout file).settings_after calls
  have pieces : t.totalPieces = c.pieceCount := congrArg Content.pieceCount content
  have timeout : t.requestTimeout = requestTimeout := limit
  have settled := sound.pick_eq_none_iff known now
  rw [pieces] at settled
  constructor
  · simpa only [Settled, Awaited, timeout] using settled
  · intro expired unfinished
    obtain ⟨i, inside, has, undone⟩ := unfinished
    have open_ : ¬ t.Settled now i :=
      sound.not_settled_of_all_expired undone (fun o out => timeout.le.trans (expired o out))
    obtain ⟨answer, ok⟩ := sound.exists_pick_eq_ok known now
    cases answer with
    | none => exact absurd (settled.1 ok i inside has) open_
    | some r => exact ⟨r, ok⟩

theorem pick_none_iff_settled_sample :
    let t := (start Sample.content 4 1000 (.ofContent "out" 3 [9])).after Sample.calls
    Sample.content.WellFormed ∧ t.bitfield? Sample.peer = some [192] ∧
      t.finished = [0] ∧ t.openRequests = [⟨⟨1, 0, 1⟩, 5⟩] ∧
      (t.pick Sample.peer 1004).1 = .ok none ∧ ∃ r, (t.pick Sample.peer 1005).1 = .ok (some r) := by
  intro t
  have known : t.bitfield? Sample.peer = some [192] := by decide +kernel
  have finished : t.finished = [0] := by decide +kernel
  have out : t.openRequests = [⟨⟨1, 0, 1⟩, 5⟩] := by decide +kernel
  refine ⟨Sample.wellFormed, known, finished, out, by decide +kernel, ?_⟩
  apply (pick_none_iff_settled Sample.wellFormed 4 1000 (.ofContent "out" 3 [9]) Sample.calls
    Sample.peer 1005 [192] known).2
  · intro o member
    change o ∈ t.openRequests at member
    rw [out, List.mem_singleton] at member
    subst member
    decide
  · exact ⟨1, by decide, by decide, by
      change 1 ∉ t.finished
      simp [finished]⟩

end Swarm.Transfer
