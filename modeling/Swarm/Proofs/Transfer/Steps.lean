import Swarm.Proofs.Transfer.Changes

/-!
What a call can do to a sound download, with the conditions under which it does it.

Asking for a block and delivering one each have a relation with a case for every way they can end.
Properties of runs are proved from these cases alone.
-/

namespace Swarm.Transfer

open Storage (DiskOutcome StorageError OutputFile)

inductive PickStep (t : Transfer) (peer : PeerId) (now : Nat) :
    Except TransferError (Option BlockRequest) → Transfer → Prop where
  | unknown (absent : t.bitfield? peer = none) : PickStep t peer now (.error (.unknownPeer peer)) t
  /-- No request of a piece that the peer has is too old, no piece of the peer's that was begun has
  a block to ask for, and no piece of the peer's is still to be begun. -/
  | nothing {bits : Bytes} (known : t.bitfield? peer = some bits)
      (young : ∀ o ∈ t.openRequests, t.canReissue bits now o = false)
      (asked : ∀ i ∈ t.ongoing, Bitfield.has bits i = true → ∀ p, t.pieces[i]? = some p →
        ∀ b ∈ p.blocks, b ≠ .missing)
      (begun : ∀ i ∈ t.missing, Bitfield.has bits i = false) :
      PickStep t peer now (.ok none) t
  | again {bits : Bytes} {k : Nat} {o : OpenRequest} (known : t.bitfield? peer = some bits)
      (out : t.openRequests[k]? = some o) (expired : t.canReissue bits now o = true) :
      PickStep t peer now (.ok (some o.request)) (t.renew k o now)
  | ongoing {bits : Bytes} {i k : Nat} {p : Piece} (known : t.bitfield? peer = some bits)
      (young : ∀ o ∈ t.openRequests, t.canReissue bits now o = false)
      (begun : i ∈ t.ongoing) (has : Bitfield.has bits i = true) (found : t.pieces[i]? = some p)
      (free : p.blocks[k]? = some .missing) :
      PickStep t peer now (.ok (some (p.requestFor k))) (t.ask i p k now)
  | new {bits : Bytes} {i k : Nat} {p : Piece} (known : t.bitfield? peer = some bits)
      (young : ∀ o ∈ t.openRequests, t.canReissue bits now o = false)
      (waiting : i ∈ t.missing) (has : Bitfield.has bits i = true) (found : t.pieces[i]? = some p)
      (free : p.blocks[k]? = some .missing) :
      PickStep t peer now (.ok (some (p.requestFor k))) ((t.startPiece i).ask i p k now)

inductive DeliverStep (t : Transfer) (i offset : Nat) (data : Bytes) (disk : DiskOutcome) :
    Except TransferError Delivery → Transfer → Prop where
  | late (done : i ∈ t.finished) : DeliverStep t i offset data disk (.ok .alreadyFinished) t
  | unsolicited (undone : i ∉ t.finished) (unbegun : i ∉ t.ongoing) :
      DeliverStep t i offset data disk (.error (.wire (.unsolicitedBlock i))) t
  | refused {p : Piece} {e : WireError} (begun : i ∈ t.ongoing) (found : t.pieces[i]? = some p)
      (unfit : p.receive offset data = .error e) :
      DeliverStep t i offset data disk (.error (.wire e)) t
  | stored {p : Piece} {k : Nat} (begun : i ∈ t.ongoing) (found : t.pieces[i]? = some p)
      (start : offset = Piece.blockOffset k) (inside : k < p.blocks.length)
      (fits : data.length = p.blockLength k)
      (unfinished : (p.modify k fun _ => .held data).isComplete = false) :
      DeliverStep t i offset data disk (.ok .stored) (t.store i p k data)
  | rejected {p : Piece} {k : Nat} (begun : i ∈ t.ongoing) (found : t.pieces[i]? = some p)
      (start : offset = Piece.blockOffset k) (inside : k < p.blocks.length)
      (fits : data.length = p.blockLength k)
      (complete : (p.modify k fun _ => .held data).isComplete = true)
      (wrong : (p.modify k fun _ => .held data).hashMatches = false) :
      DeliverStep t i offset data disk (.ok .rejected) (t.discard i p t.file)
  | unwritten {p : Piece} {k : Nat} {e : StorageError} {file : OutputFile} (begun : i ∈ t.ongoing)
      (found : t.pieces[i]? = some p) (start : offset = Piece.blockOffset k)
      (inside : k < p.blocks.length) (fits : data.length = p.blockLength k)
      (complete : (p.modify k fun _ => .held data).isComplete = true)
      (right : (p.modify k fun _ => .held data).hashMatches = true)
      (written : t.file.writeAt disk (t.content.pieceOffset i)
        (p.modify k fun _ => .held data).data = (.error e, file)) :
      DeliverStep t i offset data disk (.error (.storage e)) (t.discard i p file)
  | written {p : Piece} {k : Nat} {file : OutputFile} {answer : Except TransferError Delivery}
      (begun : i ∈ t.ongoing) (found : t.pieces[i]? = some p)
      (start : offset = Piece.blockOffset k) (inside : k < p.blocks.length)
      (fits : data.length = p.blockLength k)
      (complete : (p.modify k fun _ => .held data).isComplete = true)
      (right : (p.modify k fun _ => .held data).hashMatches = true)
      (written : t.file.writeAt disk (t.content.pieceOffset i)
        (p.modify k fun _ => .held data).data = (.ok (), file))
      (verified : answer = .ok .verified ∨ ∃ e, answer = .error (.storage e) ∧
        (t.conclude i p k data file).isComplete = true ∧ file.sync disk = .error e) :
      DeliverStep t i offset data disk answer (t.conclude i p k data file)

inductive CallStep (t : Transfer) : Call → Transfer → Prop where
  | peers (c : Call) (peers : List (PeerId × Bytes)) : CallStep t c { t with peers := peers }
  | pick {peer : PeerId} {now : Nat} {answer : Except TransferError (Option BlockRequest)}
      {next : Transfer} (step : PickStep t peer now answer next) : CallStep t (.pick peer now) next
  | deliver {i offset : Nat} {data : Bytes} {disk : DiskOutcome}
      {answer : Except TransferError Delivery} {next : Transfer}
      (step : DeliverStep t i offset data disk answer next) :
      CallStep t (.deliver i offset data disk) next

theorem mem_of_rarest? {t : Transfer} {i : Nat} {pieces : List Nat}
    (chosen : t.rarest? pieces = some i) : i ∈ pieces := by
  have member : ∀ (rest : List Nat) (first : Nat), rest.foldl t.rarer first ∈ first :: rest := by
    intro rest
    induction rest with
    | nil => intro first; exact List.mem_cons_self
    | cons j rest ih =>
      intro first
      rcases List.mem_cons.1 (ih (t.rarer first j)) with same | later
      · rw [List.foldl_cons, same]
        unfold rarer
        split <;> simp
      · exact List.mem_cons_of_mem _ (List.mem_cons_of_mem _ later)
  cases pieces with
  | nil => cases chosen
  | cons first rest =>
    cases chosen
    exact member rest first

theorem rarest?_eq_none_iff {t : Transfer} {pieces : List Nat} :
    t.rarest? pieces = none ↔ pieces = [] := by
  cases pieces <;> simp [rarest?]

theorem takeBlock?_eq_some {t next : Transfer} {now i : Nat} {r : BlockRequest}
    (taken : t.takeBlock? now i = some (r, next)) :
    ∃ p k, t.pieces[i]? = some p ∧ p.blocks[k]? = some .missing ∧ r = p.requestFor k ∧
      next = t.ask i p k now := by
  unfold takeBlock? at taken
  cases found : t.pieces[i]? with
  | none => rw [found] at taken; cases taken
  | some p =>
    cases asked : p.takeMissing with
    | none => simp only [found, asked] at taken; cases taken
    | some result =>
      obtain ⟨request, changed⟩ := result
      obtain ⟨k, free, rfl, rfl⟩ := Piece.takeMissing_eq_some asked
      simp only [found, asked] at taken
      cases taken
      exact ⟨p, k, rfl, free, rfl, rfl⟩

theorem takeBlock?_eq_none {t : Transfer} {now i : Nat} {p : Piece}
    (untaken : t.takeBlock? now i = none) (found : t.pieces[i]? = some p) :
    ∀ b ∈ p.blocks, b ≠ .missing := by
  unfold takeBlock? at untaken
  rw [found] at untaken
  apply Piece.takeMissing_eq_none_iff.1
  cases asked : p.takeMissing with
  | none => rfl
  | some result => simp only [asked] at untaken; cases untaken

variable {t next : Transfer}

/-- A request that is out marks a block that is marked already. -/
theorem Sound.reissue_eq (sound : t.Sound) {k : Nat} {o : OpenRequest}
    (out : t.openRequests[k]? = some o) (now : Nat) :
    t.reissue now k o = (o.request, t.renew k o now) := by
  have listed : o.request ∈ t.requests := List.mem_map_of_mem (List.mem_of_getElem? out)
  obtain ⟨p, found, j, asked, request⟩ := (sound.requests_iff _).1 listed
  have inside : j < p.blocks.length := (List.getElem?_eq_some_iff.1 asked).1
  have start : o.request.offset = Piece.blockOffset j := by
    rw [request, sound.requestFor_eq found inside]
  have same : t.pieces.set o.request.piece p = t.pieces := by
    obtain ⟨known, rfl⟩ := List.getElem?_eq_some_iff.1 found
    exact List.set_getElem_self known
  rw [reissue, modifyPiece_eq _ found, start, Piece.markRequested_of_requested asked, same]
  rfl

theorem takeOngoing?_eq_some {bits : Bytes} {now : Nat} {r : BlockRequest}
    (taken : t.takeOngoing? bits now = some (r, next)) :
    ∃ i p k, i ∈ t.ongoing ∧ Bitfield.has bits i = true ∧ t.pieces[i]? = some p ∧
      p.blocks[k]? = some .missing ∧ r = p.requestFor k ∧ next = t.ask i p k now := by
  obtain ⟨i, member, block⟩ := List.exists_of_findSome?_eq_some taken
  obtain ⟨begun, has⟩ := List.mem_filter.1 member
  obtain ⟨p, k, rest⟩ := takeBlock?_eq_some block
  exact ⟨i, p, k, begun, has, rest⟩

theorem Sound.takeNew_cases (sound : t.Sound) {bits : Bytes} {now : Nat}
    {answer : Option BlockRequest} (taken : t.takeNew bits now = (answer, next)) :
    (answer = none ∧ next = t ∧ ∀ i ∈ t.missing, Bitfield.has bits i = false) ∨
      ∃ i p k, i ∈ t.missing ∧ Bitfield.has bits i = true ∧ t.pieces[i]? = some p ∧
        p.blocks[k]? = some .missing ∧ answer = some (p.requestFor k) ∧
        next = (t.startPiece i).ask i p k now := by
  unfold takeNew at taken
  cases chosen : t.nextPiece? bits with
  | none =>
    rw [chosen] at taken
    cases taken
    have empty := List.filter_eq_nil_iff.1 (rarest?_eq_none_iff.1 chosen)
    exact Or.inl ⟨rfl, rfl, fun i waiting => by simpa using empty i waiting⟩
  | some i =>
    obtain ⟨waiting, has⟩ := List.mem_filter.1 (mem_of_rarest? chosen)
    simp only [chosen] at taken
    cases block : (t.startPiece i).takeBlock? now i with
    | some result =>
      obtain ⟨request, changed⟩ := result
      simp only [block] at taken
      cases taken
      obtain ⟨p, k, found, free, rfl, change⟩ := takeBlock?_eq_some block
      exact Or.inr ⟨i, p, k, waiting, has, found, free, rfl, change⟩
    | none =>
      obtain ⟨p, found, fresh⟩ := sound.exists_fresh waiting
      have first := List.getElem_mem (Piece.blocks_pos (sound.length_pos found))
      exact absurd (fresh _ first) (takeBlock?_eq_none block found _ first)

/-- What a peer is asked for when none of its requests is made again. -/
theorem Sound.first_step (sound : t.Sound) {peer : PeerId} {bits : Bytes} {now : Nat}
    {answer : Except TransferError (Option BlockRequest)} (known : t.bitfield? peer = some bits)
    (young : ∀ o ∈ t.openRequests, t.canReissue bits now o = false)
    (picked : (match t.takeOngoing? bits now with
      | some (request, u) => (.ok (some request), u)
      | none => (.ok (t.takeNew bits now).1, (t.takeNew bits now).2)) = (answer, next)) :
    PickStep t peer now answer next := by
  cases taken : t.takeOngoing? bits now with
  | some result =>
    obtain ⟨request, changed⟩ := result
    rw [taken] at picked
    cases picked
    obtain ⟨i, p, k, begun, has, found, free, rfl, rfl⟩ := takeOngoing?_eq_some taken
    exact .ongoing known young begun has found free
  | none =>
    have asked : ∀ i ∈ t.ongoing, Bitfield.has bits i = true → ∀ p,
        t.pieces[i]? = some p → ∀ b ∈ p.blocks, b ≠ .missing := by
      intro i begun has p found
      have untaken := List.findSome?_eq_none_iff.1 taken i (List.mem_filter.2 ⟨begun, has⟩)
      exact takeBlock?_eq_none untaken found
    cases new : t.takeNew bits now with
    | mk request changed =>
      simp only [taken, new] at picked
      cases picked
      rcases sound.takeNew_cases new with ⟨rfl, rfl, begun⟩ |
        ⟨i, p, k, waiting, has, found, free, rfl, rfl⟩
      · exact .nothing known young asked begun
      · exact .new known young waiting has found free

theorem Sound.pick_step (sound : t.Sound) {peer : PeerId} {now : Nat}
    {answer : Except TransferError (Option BlockRequest)}
    (picked : t.pick peer now = (answer, next)) : PickStep t peer now answer next := by
  unfold pick at picked
  cases known : t.bitfield? peer with
  | none =>
    rw [known] at picked
    cases picked
    exact .unknown known
  | some bits =>
    rw [known] at picked
    cases place : t.openRequests.findIdx? (t.canReissue bits now) with
    | some k =>
      obtain ⟨inside, expired, _⟩ := List.findIdx?_eq_some_iff_getElem.1 place
      have out := List.getElem?_eq_getElem inside
      simp only [place, out, sound.reissue_eq out] at picked
      cases picked
      exact .again known out expired
    | none =>
      have young := List.findIdx?_eq_none_iff.1 place
      simp only [place] at picked
      exact sound.first_step known young picked

theorem Sound.dropPiece_finished (sound : t.Sound) {i : Nat} (done : i ∈ t.finished) :
    dropPiece i t.openRequests = t.openRequests := by
  apply List.filter_eq_self.2
  intro o out
  have listed : o.request ∈ t.requests := List.mem_map_of_mem out
  obtain ⟨p, found, asked⟩ := (sound.requests_iff _).1 listed
  rw [bne_iff_ne]
  intro here
  rw [here] at found
  exact ((sound.suits i p found).done done).not_asks _ asked

variable {i k : Nat} {p q : Piece} {data : Bytes}

theorem dropPiece_dropBlock (i offset : Nat) (requests : List OpenRequest) :
    dropPiece i (dropBlock i offset requests) = dropPiece i requests := by
  simp only [dropPiece, dropBlock, List.filter_filter]
  apply List.filter_congr
  intro o _
  by_cases here : o.request.piece = i
  · simp [here]
  · simp [here]

theorem restart_store (found : t.pieces[i]? = some p) (k : Nat) (data : Bytes)
    (file : OutputFile) :
    ({ t.store i p k data with file := file }).restart i = t.discard i p file := by
  have inside : i < t.pieces.length := (List.getElem?_eq_some_iff.1 found).1
  have at_i : ({ t.store i p k data with file := file }).pieces[i]? =
      some (p.modify k fun _ => .held data) := List.getElem?_set_self inside
  rw [restart, modifyPiece_eq Piece.reset at_i, Piece.reset_modify]
  simp only [store, discard, List.set_set, dropPiece_dropBlock]

theorem finish_store (found : t.pieces[i]? = some p) (k : Nat) (data : Bytes)
    (file : OutputFile) :
    ({ t.store i p k data with file := file }).finish i
      (p.modify k fun _ => .held data).data.length = t.conclude i p k data file := by
  have inside : i < t.pieces.length := (List.getElem?_eq_some_iff.1 found).1
  have at_i : ({ t.store i p k data with file := file }).pieces[i]? =
      some (p.modify k fun _ => .held data) := List.getElem?_set_self inside
  rw [finish, modifyPiece_eq Piece.release at_i]
  simp only [store, conclude, List.set_set]

/-- Writing a complete piece out, seen from the state before its last block came in. -/
theorem commit_step {disk : DiskOutcome} {answer : Except TransferError Delivery}
    (begun : i ∈ t.ongoing) (found : t.pieces[i]? = some p) (inside : k < p.blocks.length)
    (fits : data.length = p.blockLength k)
    (complete : (p.modify k fun _ => .held data).isComplete = true)
    (right : (p.modify k fun _ => .held data).hashMatches = true)
    (committed : (t.store i p k data).commit i (p.modify k fun _ => .held data).data disk =
      (answer, next)) :
    DeliverStep t i (Piece.blockOffset k) data disk answer next := by
  unfold commit at committed
  cases written : t.file.writeAt disk (t.content.pieceOffset i)
      (p.modify k fun _ => .held data).data with
  | mk outcome file =>
    have same : (t.store i p k data).file.writeAt disk
        (i * (t.store i p k data).content.pieceLength) (p.modify k fun _ => .held data).data =
          (outcome, file) := written
    rw [same] at committed
    cases outcome with
    | error e =>
      simp only [restart_store found] at committed
      cases committed
      exact .unwritten begun found rfl inside fits complete right written
    | ok =>
      simp only [finish_store found] at committed
      split at committed
      next all =>
        split at committed
        next e failed =>
          cases committed
          exact .written begun found rfl inside fits complete right written
            (Or.inr ⟨e, rfl, all, failed⟩)
        next =>
          cases committed
          exact .written begun found rfl inside fits complete right written (Or.inl rfl)
      next =>
        cases committed
        exact .written begun found rfl inside fits complete right written (Or.inl rfl)

/-- Taking in a block that fits, seen from the state before it came. -/
theorem accept_step {disk : DiskOutcome} {answer : Except TransferError Delivery}
    (begun : i ∈ t.ongoing) (found : t.pieces[i]? = some p) (inside : k < p.blocks.length)
    (fits : data.length = p.blockLength k)
    (accepted : t.accept i (Piece.blockOffset k) (p.modify k fun _ => .held data) disk =
      (answer, next)) :
    DeliverStep t i (Piece.blockOffset k) data disk answer next := by
  simp only [accept] at accepted
  cases complete : (p.modify k fun _ => .held data).isComplete with
  | false =>
    rw [if_pos (by simp [complete])] at accepted
    cases accepted
    exact .stored begun found rfl inside fits complete
  | true =>
    rw [if_neg (by simp [complete])] at accepted
    cases right : (p.modify k fun _ => .held data).hashMatches with
    | false =>
      rw [if_pos (by simp [right])] at accepted
      have again : (t.store i p k data).restart i = t.discard i p t.file :=
        restart_store found k data t.file
      change (.ok .rejected, (t.store i p k data).restart i) = (answer, next) at accepted
      rw [again] at accepted
      cases accepted
      exact .rejected begun found rfl inside fits complete right
    | true =>
      rw [if_neg (by simp [right])] at accepted
      exact commit_step begun found inside fits complete right accepted

section Deliver

variable {offset : Nat} {disk : DiskOutcome}

theorem Sound.deliver_of_finished (sound : t.Sound) (done : i ∈ t.finished) (offset : Nat)
    (data : Bytes) (disk : DiskOutcome) :
    t.deliver i offset data disk = (.ok .alreadyFinished, t) := by
  rw [deliver, if_pos (List.contains_iff_mem.2 done), sound.dropPiece_finished done]

theorem deliver_of_unsolicited (undone : i ∉ t.finished) (unbegun : i ∉ t.ongoing) :
    t.deliver i offset data disk = (.error (.wire (.unsolicitedBlock i)), t) := by
  rw [deliver, if_neg (mt List.contains_iff_mem.1 undone),
    if_pos (mt List.contains_iff_mem.1 unbegun)]

theorem Sound.deliver_of_begun (sound : t.Sound) (begun : i ∈ t.ongoing)
    (found : t.pieces[i]? = some p) : t.deliver i offset data disk =
      match p.receive offset data with
      | .error e => (.error (.wire e), t)
      | .ok q => t.accept i offset q disk := by
  have undone : i ∉ t.finished := sound.ongoing_disjoint_finished begun
  rw [deliver, if_neg (mt List.contains_iff_mem.1 undone),
    if_neg (not_not.2 (List.contains_iff_mem.2 begun))]
  cases received : p.receive offset data with
  | error e => simp only [found, received]
  | ok q => simp only [found, received]

theorem Sound.deliver_step (sound : t.Sound) {answer : Except TransferError Delivery}
    (delivered : t.deliver i offset data disk = (answer, next)) :
    DeliverStep t i offset data disk answer next := by
  by_cases done : i ∈ t.finished
  · rw [sound.deliver_of_finished done] at delivered
    cases delivered
    exact .late done
  · by_cases begun : i ∈ t.ongoing
    · obtain ⟨p, found⟩ := sound.exists_piece (sound.lt_of_ongoing begun)
      rw [sound.deliver_of_begun begun found] at delivered
      cases received : p.receive offset data with
      | error e =>
        simp only [received] at delivered
        cases delivered
        exact .refused begun found received
      | ok q =>
        simp only [received] at delivered
        obtain ⟨k, rfl, inside, fits, rfl⟩ := Piece.receive_eq_ok_iff.1 received
        exact accept_step begun found inside fits delivered
    · rw [deliver_of_unsolicited done begun] at delivered
      cases delivered
      exact .unsolicited done begun

end Deliver

/-! ### Runs -/

theorem PickStep.sound {peer : PeerId} {now : Nat}
    {answer : Except TransferError (Option BlockRequest)} (step : PickStep t peer now answer next)
    (sound : t.Sound) : next.Sound := by
  cases step with
  | unknown => exact sound
  | nothing => exact sound
  | again _ out _ => exact sound.renew out now
  | ongoing _ _ begun _ found free => exact sound.ask begun found free now
  | new _ _ waiting _ found free =>
    exact (sound.startPiece waiting).ask (List.mem_append_right _ (List.mem_singleton_self _))
      found free now

theorem DeliverStep.sound {offset : Nat} {disk : DiskOutcome}
    {answer : Except TransferError Delivery}
    (step : DeliverStep t i offset data disk answer next) (sound : t.Sound) : next.Sound := by
  cases step with
  | late => exact sound
  | unsolicited => exact sound
  | refused => exact sound
  | stored begun found _ _ fits unfinished => exact sound.store begun found fits unfinished
  | rejected begun found => exact sound.discard begun found _
  | unwritten begun found => exact sound.discard begun found _
  | written begun found _ _ _ complete => exact sound.conclude begun found complete _

theorem Sound.call_step (sound : t.Sound) (c : Call) : CallStep t c (t.call c).2 := by
  rcases t.call_cases c with ⟨peer, now, rfl⟩ | ⟨i, offset, data, disk, rfl⟩ | ⟨-, peers, same⟩
  · exact .pick (sound.pick_step rfl)
  · exact .deliver (sound.deliver_step rfl)
  · rw [same]
    exact .peers c peers

theorem CallStep.sound {c : Call} (step : CallStep t c next) (sound : t.Sound) : next.Sound := by
  cases step with
  | peers _ peers => exact sound.of_same rfl rfl rfl rfl rfl rfl
  | pick step => exact step.sound sound
  | deliver step => exact step.sound sound

theorem Sound.after (sound : t.Sound) (calls : List Call) : (t.after calls).Sound := by
  apply Transfer.after_induction calls
  · exact fun c _ t sound => (sound.call_step c).sound sound
  · exact sound

/-- What each step of a sound download keeps holds after a run of it. -/
theorem Sound.after_induction {P : Transfer → Prop} (sound : t.Sound) (calls : List Call)
    (kept : ∀ c ∈ calls, ∀ t next, t.Sound → CallStep t c next → P t → P next) (holds : P t) :
    (t.after calls).Sound ∧ P (t.after calls) := by
  apply Transfer.after_induction (P := fun t => t.Sound ∧ P t) calls
  · intro c member t both
    obtain ⟨sound, holds⟩ := both
    have step := sound.call_step c
    exact ⟨step.sound sound, kept c member t _ sound step holds⟩
  · exact ⟨sound, holds⟩

theorem CallStep.settings {c : Call} (step : CallStep t c next) :
    next.content = t.content ∧ next.maxPeers = t.maxPeers ∧
      next.requestTimeout = t.requestTimeout := by
  cases step with
  | peers => exact ⟨rfl, rfl, rfl⟩
  | pick step => cases step <;> exact ⟨rfl, rfl, rfl⟩
  | deliver step => cases step <;> exact ⟨rfl, rfl, rfl⟩

/-- No call changes what is downloaded, nor the limits. -/
theorem Sound.settings_after (sound : t.Sound) (calls : List Call) :
    (t.after calls).content = t.content ∧ (t.after calls).maxPeers = t.maxPeers ∧
      (t.after calls).requestTimeout = t.requestTimeout := by
  refine (sound.after_induction (P := fun u => u.content = t.content ∧ u.maxPeers = t.maxPeers ∧
    u.requestTimeout = t.requestTimeout) calls ?_ ⟨rfl, rfl, rfl⟩).2
  intro c _ u v _ step same
  obtain ⟨content, maxPeers, requestTimeout⟩ := same
  obtain ⟨sameContent, sameMaxPeers, sameRequestTimeout⟩ := step.settings
  exact ⟨sameContent.trans content, sameMaxPeers.trans maxPeers,
    sameRequestTimeout.trans requestTimeout⟩

/-- Every run of a well-formed download stays sound. -/
theorem sound_after {c : Content} (wf : c.WellFormed) (maxPeers requestTimeout : Nat)
    (file : OutputFile) (calls : List Call) :
    ((Transfer.start c maxPeers requestTimeout file).after calls).Sound :=
  (Sound.start wf maxPeers requestTimeout file).after calls

end Swarm.Transfer
