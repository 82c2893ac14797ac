import Mathlib.Data.List.Forall2
import Swarm.Proofs.Transfer.Announcements
import Swarm.Proofs.Transfer.Steps

/-!
What a download reads of the sets that peers send: which of its pieces are in them, and nothing
else.

Two runs of the same calls, for whose registrations only that is the same, are followed step by
step. Their states differ in the tables of peers alone, and these agree entry by entry (`Alike`).
Every search through a table or a set looks at pieces of the download only, so it finds the same.
-/

namespace Swarm

namespace Bitfield

def Agree (n : Nat) (bits other : Bytes) : Prop := ∀ i < n, has bits i = has other i

instance (n : Nat) (bits other : Bytes) : Decidable (Agree n bits other) :=
  inferInstanceAs (Decidable (∀ i < n, has bits i = has other i))

theorem Agree.refl (n : Nat) (bits : Bytes) : Agree n bits bits := fun _ _ => rfl

theorem Agree.insert {n : Nat} {bits other : Bytes} (agree : Agree n bits other) (i : Nat) :
    Agree n (insert bits i) (insert other i) := by
  intro j inside
  rw [Bool.eq_iff_iff, has_insert, has_insert, agree j inside]

end Bitfield

namespace Transfer

open Storage (DiskOutcome OutputFile)

/-- Calls that are the same, but for what the sets of registrations hold beyond the first `n`
pieces. -/
inductive Call.Alike (n : Nat) : Call → Call → Prop where
  | same (c : Call) : Alike n c c
  | register (peer : PeerId) {bits other : Bytes} (agree : Bitfield.Agree n bits other) :
      Alike n (.register peer bits) (.register peer other)

def EntriesAlike (n : Nat) (entry other : PeerId × Bytes) : Prop :=
  entry.1 = other.1 ∧ Bitfield.Agree n entry.2 other.2

/-- The tables of two states that are otherwise the same agree in the pieces of the download. -/
structure Alike (t u : Transfer) : Prop where
  same : u = { t with peers := u.peers }
  peers : List.Forall₂ (EntriesAlike t.totalPieces) t.peers u.peers

variable {t u : Transfer} {n i : Nat} {peer : PeerId} {bits other : Bytes} {now : Nat}
  {table entries : List (PeerId × Bytes)}

/-! ### Tables that agree -/

theorem rel_lookup (alike : List.Forall₂ (EntriesAlike n) entries table) (peer : PeerId) :
    Option.Rel (Bitfield.Agree n) (entries.lookup peer) (table.lookup peer) := by
  induction alike with
  | nil => exact .none
  | cons first rest ih =>
    rw [List.lookup_cons, List.lookup_cons, first.1]
    split
    next => exact .some first.2
    next => exact ih

theorem forall₂_dropPeer (alike : List.Forall₂ (EntriesAlike n) entries table) (peer : PeerId) :
    List.Forall₂ (EntriesAlike n) (entries.filter (·.1 != peer)) (table.filter (·.1 != peer)) := by
  apply List.rel_filter _ alike
  intro entry twin both
  show (entry.1 != peer) = true ↔ (twin.1 != peer) = true
  rw [both.1]

theorem forall₂_putPeer (alike : List.Forall₂ (EntriesAlike n) entries table) (peer : PeerId)
    (agree : Bitfield.Agree n bits other) :
    List.Forall₂ (EntriesAlike n) (putPeer peer bits entries) (putPeer peer other table) :=
  .cons ⟨rfl, agree⟩ (forall₂_dropPeer alike peer)

theorem holders_congr (alike : List.Forall₂ (EntriesAlike n) t.peers table) (inside : i < n) :
    ({ t with peers := table }).holders i = t.holders i := by
  have same : List.Forall₂ (EntriesAlike n) (t.peers.filter fun entry => Bitfield.has entry.2 i)
      (table.filter fun entry => Bitfield.has entry.2 i) := by
    apply List.rel_filter _ alike
    intro entry twin both
    show Bitfield.has entry.2 i = true ↔ Bitfield.has twin.2 i = true
    rw [both.2 i inside]
  exact same.length_eq.symm

/-! ### What a peer is asked for -/

theorem canReissue_congr (agree : Bitfield.Agree n bits other) {o : OpenRequest}
    (inside : o.request.piece < n) :
    ({ t with peers := table }).canReissue other now o = t.canReissue bits now o := by
  rw [canReissue, canReissue, agree _ inside]

theorem takeBlock?_peers (t : Transfer) (table : List (PeerId × Bytes)) (now i : Nat) :
    ({ t with peers := table }).takeBlock? now i =
      (t.takeBlock? now i).map fun taken => (taken.1, { taken.2 with peers := table }) := by
  unfold takeBlock?
  dsimp only
  cases t.pieces[i]? with
  | none => rfl
  | some p =>
    dsimp only
    cases p.takeMissing <;> rfl

theorem filter_has_congr (agree : Bitfield.Agree n bits other) {pieces : List Nat}
    (inside : ∀ i ∈ pieces, i < n) :
    pieces.filter (Bitfield.has other) = pieces.filter (Bitfield.has bits) :=
  List.filter_congr fun i member => (agree i (inside i member)).symm

theorem takeOngoing?_peers (agree : Bitfield.Agree n bits other) (inside : ∀ i ∈ t.ongoing, i < n)
    (table : List (PeerId × Bytes)) (now : Nat) :
    ({ t with peers := table }).takeOngoing? other now =
      (t.takeOngoing? bits now).map fun taken => (taken.1, { taken.2 with peers := table }) := by
  rw [takeOngoing?, takeOngoing?, List.map_findSome?, filter_has_congr agree inside]
  congr 1
  funext i
  exact t.takeBlock?_peers table now i

theorem rarest?_congr (alike : List.Forall₂ (EntriesAlike n) t.peers table) {pieces : List Nat}
    (inside : ∀ i ∈ pieces, i < n) :
    ({ t with peers := table }).rarest? pieces = t.rarest? pieces := by
  have folded : ∀ (rest : List Nat) (first : Nat), first < n → (∀ i ∈ rest, i < n) →
      rest.foldl ({ t with peers := table }).rarer first = rest.foldl t.rarer first := by
    intro rest
    induction rest with
    | nil => exact fun _ _ _ => rfl
    | cons second rest ih =>
      intro first known all
      obtain ⟨next, later⟩ := List.forall_mem_cons.1 all
      have one : ({ t with peers := table }).rarer first second = t.rarer first second := by
        rw [rarer, rarer, holders_congr alike known, holders_congr alike next]
      have smaller : t.rarer first second < n := by
        unfold rarer
        split
        · exact next
        · exact known
      rw [List.foldl_cons, List.foldl_cons, one]
      exact ih _ smaller later
  cases pieces with
  | nil => rfl
  | cons first rest =>
    obtain ⟨known, later⟩ := List.forall_mem_cons.1 inside
    exact congrArg some (folded rest first known later)

theorem takeNew_peers (agree : Bitfield.Agree n bits other)
    (alike : List.Forall₂ (EntriesAlike n) t.peers table) (inside : ∀ i ∈ t.missing, i < n)
    (now : Nat) :
    ({ t with peers := table }).takeNew other now =
      ((t.takeNew bits now).1, { (t.takeNew bits now).2 with peers := table }) := by
  have chosen : ({ t with peers := table }).nextPiece? other = t.nextPiece? bits := by
    rw [nextPiece?, nextPiece?, filter_has_congr agree inside]
    exact rarest?_congr alike fun i member => inside i (List.mem_filter.1 member).1
  unfold takeNew
  rw [chosen]
  cases t.nextPiece? bits with
  | none => rfl
  | some i =>
    have block := (t.startPiece i).takeBlock?_peers table now i
    have begun : ({ t with peers := table }).startPiece i =
        { t.startPiece i with peers := table } := rfl
    dsimp only
    rw [begun, block]
    cases (t.startPiece i).takeBlock? now i <;> rfl

theorem Sound.lt_of_out (sound : t.Sound) {o : OpenRequest} (out : o ∈ t.openRequests) :
    o.request.piece < t.totalPieces := by
  obtain ⟨p, found, -⟩ := (sound.requests_iff _).1 (List.mem_map_of_mem out)
  exact sound.lt_of_piece found

theorem findIdx?_congr {α : Type} {p q : α → Bool} {l : List α} (same : ∀ a ∈ l, p a = q a) :
    l.findIdx? p = l.findIdx? q := by
  induction l with
  | nil => rfl
  | cons a rest ih =>
    obtain ⟨first, later⟩ := List.forall_mem_cons.1 same
    rw [List.findIdx?_cons, List.findIdx?_cons, first, ih later]

/-- A peer is asked for the same in both states. -/
theorem Sound.pick_peers (sound : t.Sound)
    (alike : List.Forall₂ (EntriesAlike t.totalPieces) t.peers table) (peer : PeerId) (now : Nat) :
    ({ t with peers := table }).pick peer now =
      ((t.pick peer now).1, { (t.pick peer now).2 with peers := table }) := by
  have related := rel_lookup alike peer
  unfold pick bitfield?
  dsimp only
  generalize t.peers.lookup peer = mine, table.lookup peer = theirs at related
  cases related with
  | none => rfl
  | @some bits other agree =>
    -- The open requests and the pools name pieces of the download only, where the sets agree.
    have due : t.openRequests.findIdx? (({ t with peers := table }).canReissue other now) =
        t.openRequests.findIdx? (t.canReissue bits now) :=
      findIdx?_congr fun o out => canReissue_congr agree (sound.lt_of_out out)
    have begun := takeOngoing?_peers agree (fun _ member => sound.lt_of_ongoing member) table now
    have new := takeNew_peers agree alike (fun _ member => sound.lt_of_missing member) now
    dsimp only
    rw [due, begun, new]
    cases t.openRequests.findIdx? (t.canReissue bits now) with
    | some k =>
      dsimp only
      cases t.openRequests[k]? <;> rfl
    | none =>
      dsimp only
      cases t.takeOngoing? bits now <;> rfl

/-! ### Blocks that arrive -/

theorem commit_peers (t : Transfer) (table : List (PeerId × Bytes)) (i : Nat) (data : Bytes)
    (disk : DiskOutcome) : ({ t with peers := table }).commit i data disk =
      ((t.commit i data disk).1, { (t.commit i data disk).2 with peers := table }) := by
  unfold commit
  dsimp only
  cases t.file.writeAt disk (i * t.content.pieceLength) data with
  | mk outcome file =>
    cases outcome with
    | error e => rfl
    | ok =>
      have whole : (({ t with peers := table, file := file }).finish i data.length).isComplete =
          (({ t with file := file }).finish i data.length).isComplete := rfl
      have synced :
          (({ t with peers := table, file := file }).finish i data.length).file.sync disk =
            (({ t with file := file }).finish i data.length).file.sync disk := rfl
      dsimp only
      rw [whole, synced]
      cases (({ t with file := file }).finish i data.length).isComplete with
      | false => rfl
      | true => cases (({ t with file := file }).finish i data.length).file.sync disk <;> rfl

theorem accept_peers (t : Transfer) (table : List (PeerId × Bytes)) (i offset : Nat) (p : Piece)
    (disk : DiskOutcome) : ({ t with peers := table }).accept i offset p disk =
      ((t.accept i offset p disk).1, { (t.accept i offset p disk).2 with peers := table }) := by
  unfold accept
  dsimp only
  split
  next => rfl
  next =>
    split
    next => rfl
    next =>
      exact commit_peers { t with
        pieces := t.pieces.set i p
        openRequests := dropBlock i offset t.openRequests } table i p.data disk

/-- What becomes of a block that arrives does not depend on the peers. -/
theorem deliver_peers (t : Transfer) (table : List (PeerId × Bytes)) (i offset : Nat) (data : Bytes)
    (disk : DiskOutcome) : ({ t with peers := table }).deliver i offset data disk =
      ((t.deliver i offset data disk).1,
        { (t.deliver i offset data disk).2 with peers := table }) := by
  unfold deliver
  dsimp only
  split
  next => rfl
  next =>
    split
    next => rfl
    next =>
      cases t.pieces[i]? with
      | none => rfl
      | some p =>
        dsimp only
        cases p.receive offset data with
        | error e => rfl
        | ok q => exact accept_peers t table i offset q disk

/-! ### Calls -/

namespace Alike

theorem totalPieces_eq (alike : Alike t u) : u.totalPieces = t.totalPieces := by
  rw [alike.same]
  rfl

theorem rel_bitfield? (alike : Alike t u) (peer : PeerId) :
    Option.Rel (Bitfield.Agree t.totalPieces) (t.bitfield? peer) (u.bitfield? peer) :=
  rel_lookup alike.peers peer

theorem isRegistered_eq (alike : Alike t u) (peer : PeerId) :
    u.isRegistered peer = t.isRegistered peer := by
  have related := alike.rel_bitfield? peer
  unfold isRegistered
  generalize t.bitfield? peer = mine, u.bitfield? peer = theirs at related
  cases related <;> rfl

theorem withPeers (alike : Alike t u)
    (tables : List.Forall₂ (EntriesAlike t.totalPieces) entries table) :
    Alike { t with peers := entries } { u with peers := table } where
  same := congrArg (fun state => { state with peers := table }) alike.same
  peers := tables

theorem put (alike : Alike t u) (peer : PeerId) (agree : Bitfield.Agree t.totalPieces bits other) :
    Alike { t with peers := putPeer peer bits t.peers }
      { u with peers := putPeer peer other u.peers } :=
  alike.withPeers (forall₂_putPeer alike.peers peer agree)

theorem register (alike : Alike t u) (peer : PeerId)
    (agree : Bitfield.Agree t.totalPieces bits other) :
    (u.register peer other).1 = (t.register peer bits).1 ∧
      Alike (t.register peer bits).2 (u.register peer other).2 := by
  have room : u.maxPeers = t.maxPeers := by rw [alike.same]
  have full : (¬ u.isRegistered peer = true ∧ u.maxPeers ≤ u.peers.length) ↔
      ¬ t.isRegistered peer = true ∧ t.maxPeers ≤ t.peers.length := by
    rw [alike.isRegistered_eq, room, alike.peers.length_eq]
  unfold Transfer.register
  simp only [full]
  split
  next => exact ⟨rfl, alike⟩
  next => exact ⟨rfl, alike.put peer agree⟩

theorem unregister (alike : Alike t u) (peer : PeerId) :
    (u.unregister peer).1 = (t.unregister peer).1 ∧
      Alike (t.unregister peer).2 (u.unregister peer).2 := by
  have complete : u.isComplete = t.isComplete := by
    rw [alike.same]
    rfl
  unfold Transfer.unregister
  rw [alike.isRegistered_eq, complete]
  split
  next => exact ⟨rfl, alike.withPeers (forall₂_dropPeer alike.peers peer)⟩
  next => exact ⟨rfl, alike⟩

theorem addPiece (alike : Alike t u) (peer : PeerId) (i : Nat) :
    (u.addPiece peer i).1 = (t.addPiece peer i).1 ∧
      Alike (t.addPiece peer i).2 (u.addPiece peer i).2 := by
  have related := alike.rel_bitfield? peer
  unfold Transfer.addPiece
  rw [alike.totalPieces_eq]
  split
  next => exact ⟨rfl, alike⟩
  next =>
    generalize t.bitfield? peer = mine, u.bitfield? peer = theirs at related
    cases related with
    | none => exact ⟨rfl, alike⟩
    | some agree => exact ⟨rfl, alike.put peer (agree.insert i)⟩

theorem of_frame {next : Transfer} (alike : Alike t u) (content : next.content = t.content)
    (peers : next.peers = t.peers) : Alike next { next with peers := u.peers } where
  same := rfl
  peers := by
    rw [peers, totalPieces, content]
    exact alike.peers

/-- A call is answered in the same way in both states, and leads to states that are alike again. -/
theorem call {c d : Call} (alike : Alike t u) (sound : t.Sound)
    (both : Call.Alike t.totalPieces c d) :
    (u.call d).1 = (t.call c).1 ∧ Alike (t.call c).2 (u.call d).2 := by
  have content := (sound.call_step c).settings.1
  cases both with
  | register peer agree =>
    obtain ⟨answer, next⟩ := alike.register peer agree
    exact ⟨congrArg Answer.registered answer, next⟩
  | same c =>
    cases c with
    | register peer bits =>
      obtain ⟨answer, next⟩ := alike.register peer (.refl _ bits)
      exact ⟨congrArg Answer.registered answer, next⟩
    | unregister peer =>
      obtain ⟨answer, next⟩ := alike.unregister peer
      exact ⟨congrArg Answer.changed answer, next⟩
    | addPiece peer i =>
      obtain ⟨answer, next⟩ := alike.addPiece peer i
      exact ⟨congrArg Answer.changed answer, next⟩
    | pick peer now =>
      have picked : u.pick peer now =
          ((t.pick peer now).1, { (t.pick peer now).2 with peers := u.peers }) := by
        rw [alike.same]
        exact sound.pick_peers alike.peers peer now
      rw [Transfer.call, Transfer.call, picked]
      exact ⟨rfl, alike.of_frame content (t.peers_pick peer now)⟩
    | deliver i offset data disk =>
      have delivered : u.deliver i offset data disk = ((t.deliver i offset data disk).1,
          { (t.deliver i offset data disk).2 with peers := u.peers }) := by
        rw [alike.same]
        exact t.deliver_peers u.peers i offset data disk
      rw [Transfer.call, Transfer.call, delivered]
      exact ⟨rfl, alike.of_frame content (t.peers_deliver i offset data disk)⟩

theorem run {calls others : List Call} (alike : Alike t u) (sound : t.Sound)
    (both : List.Forall₂ (Call.Alike t.totalPieces) calls others) :
    (u.log others).map (·.answer) = (t.log calls).map (·.answer) ∧
      Alike (t.after calls) (u.after others) := by
  generalize steady : t.totalPieces = n at both
  induction both generalizing t u with
  | nil => exact ⟨rfl, alike⟩
  | @cons c d calls others first rest ih =>
    have step := sound.call_step c
    obtain ⟨answer, next⟩ := alike.call sound (steady ▸ first)
    have count : (t.call c).2.totalPieces = n := by
      rw [totalPieces, step.settings.1]
      exact steady
    obtain ⟨answers, last⟩ := ih next (step.sound sound) count
    refine ⟨?_, last⟩
    rw [log, log, List.map_cons, List.map_cons, answers]
    exact congrArg (· :: _) answer

theorem snapshot_eq (alike : Alike t u) : u.snapshot = t.snapshot := by
  rw [alike.same, snapshot, snapshot, ← alike.peers.length_eq]
  rfl

end Alike

/-! ### Pieces that are announced -/

structure Learns (t : Transfer) (peer : PeerId) (i : Nat) (next : Transfer) : Prop where
  same : next = { t with peers := next.peers }
  grows : ∃ bits grown, t.bitfield? peer = some bits ∧ next.bitfield? peer = some grown ∧
    ∀ j, Bitfield.has grown j = true ↔ j = i ∨ Bitfield.has bits j = true
  others : ∀ other, other ≠ peer → next.bitfield? other = t.bitfield? other

theorem addPiece_learns (inside : i < t.totalPieces) (known : t.isRegistered peer = true) :
    (t.addPiece peer i).1 = .ok () ∧ t.Learns peer i (t.addPiece peer i).2 := by
  obtain ⟨bits, found⟩ := Option.isSome_iff_exists.1 known
  unfold addPiece
  rw [if_neg (Nat.not_le_of_lt inside), found]
  refine ⟨rfl, rfl, ⟨bits, Bitfield.insert bits i, found, ?_, ?_⟩, ?_⟩
  · exact bitfield?_putPeer_self _ rfl
  · exact Bitfield.has_insert bits i
  · exact fun other apart => bitfield?_putPeer_of_ne apart _ rfl

theorem addPiece_refused (neither : ¬ (i < t.totalPieces ∧ t.isRegistered peer = true)) :
    (∃ e, (t.addPiece peer i).1 = .error e) ∧ (t.addPiece peer i).2 = t := by
  unfold addPiece
  split
  next => exact ⟨⟨_, rfl⟩, rfl⟩
  next inside =>
    split
    next => exact ⟨⟨_, rfl⟩, rfl⟩
    next bits found =>
      refine absurd ⟨Nat.lt_of_not_le inside, ?_⟩ neither
      rw [isRegistered, found, Option.isSome_some]

/-- A download reads of the sets that peers are registered with which of its pieces are in them. Two
runs whose registrations agree in these give the same answers and differ only in the sets. A piece
that is announced for a peer is added to the set of that peer, and nothing else is. -/
theorem only_pieces_matter {c : Content} (wf : c.WellFormed) (maxPeers requestTimeout : Nat)
    (file : OutputFile) {calls others : List Call}
    (both : List.Forall₂ (Call.Alike c.pieceCount) calls others) :
    let s := start c maxPeers requestTimeout file
    let t := s.after calls
    let u := s.after others
    (s.log others).map (·.answer) = (s.log calls).map (·.answer) ∧
      u = { t with peers := u.peers } ∧ u.snapshot = t.snapshot ∧
      (∀ peer, Option.Rel (Bitfield.Agree c.pieceCount) (t.bitfield? peer) (u.bitfield? peer)) ∧
      ∀ (v : Transfer) (peer : PeerId) (i : Nat),
        (i < v.totalPieces ∧ v.isRegistered peer = true →
          (v.addPiece peer i).1 = .ok () ∧ v.Learns peer i (v.addPiece peer i).2) ∧
        (¬ (i < v.totalPieces ∧ v.isRegistered peer = true) →
          (∃ e, (v.addPiece peer i).1 = .error e) ∧ (v.addPiece peer i).2 = v) := by
  intro s t u
  have sound : s.Sound := .start wf maxPeers requestTimeout file
  have alike : Alike s s := ⟨rfl, .nil⟩
  obtain ⟨answers, last⟩ := alike.run sound both
  have count : t.totalPieces = c.pieceCount :=
    congrArg Content.pieceCount (sound.settings_after calls).1
  refine ⟨answers, last.same, last.snapshot_eq, count ▸ last.rel_bitfield?, ?_⟩
  intro v peer i
  constructor
  · intro both
    exact addPiece_learns both.1 both.2
  · exact addPiece_refused

theorem only_pieces_matter_sample :
    let s := start Sample.content 4 1000 (.ofContent "out" 3 [9])
    let t := s.after Sample.calls
    let u := s.after (.register Sample.peer [255, 7] :: Sample.calls.tail)
    Sample.content.WellFormed ∧ Bitfield.Agree Sample.content.pieceCount [192] [255, 7] ∧
      t.bitfield? Sample.peer = some [192] ∧ u.bitfield? Sample.peer = some [255, 7] ∧
      t.finished = [0] ∧ u = { t with peers := u.peers } ∧
      Learns t Sample.peer 1 (t.addPiece Sample.peer 1).2 := by
  intro s t u
  have agree : Bitfield.Agree Sample.content.pieceCount [192] [255, 7] := by
    decide +kernel
  have both : List.Forall₂ (Call.Alike Sample.content.pieceCount) Sample.calls
      (.register Sample.peer [255, 7] :: Sample.calls.tail) :=
    .cons (.register Sample.peer agree) (List.forall₂_same.2 fun c _ => .same c)
  obtain ⟨-, same, -, -, added⟩ :=
    only_pieces_matter Sample.wellFormed 4 1000 (.ofContent "out" 3 [9]) both
  have first : t.bitfield? Sample.peer = some [192] := by decide +kernel
  have second : u.bitfield? Sample.peer = some [255, 7] := by decide +kernel
  have here : t.finished = [0] := by decide +kernel
  have inside : 1 < t.totalPieces := by decide +kernel
  have known : t.isRegistered Sample.peer = true := by decide +kernel
  obtain ⟨-, learns⟩ := (added t Sample.peer 1).1 ⟨inside, known⟩
  exact ⟨Sample.wellFormed, agree, first, second, here, same, learns⟩

end Transfer

end Swarm
