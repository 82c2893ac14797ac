import Mathlib.Data.List.Perm.Basic
import Mathlib.Data.List.Nodup
import Mathlib.Data.List.Range
import Swarm.Proofs.Piece.Blocks
import Swarm.Proofs.Torrent.Layout
import Swarm.Proofs.Transfer.Calls

/-!
What holds of a download between two calls.

The pools are a division of all pieces, the blocks of a piece look as its pool says, and the
requests that are out are exactly those for blocks that a peer was asked for. The last part ties two
records of the same thing together, so every change has to keep both in step: it is stated once for
a change of one piece (`Sound.replace`), and the changes that calls make are cases of that.
-/

namespace Swarm

def BlockRequest.place (r : BlockRequest) : Nat × Nat := (r.piece, r.offset)

namespace Piece

def Fresh (p : Piece) : Prop := ∀ b ∈ p.blocks, b = .missing

structure Filling (p : Piece) : Prop where
  kept : ∀ b ∈ p.blocks, b ≠ .released
  fits : ∀ k data, p.blocks[k]? = some (.held data) → data.length = p.blockLength k
  unfinished : ∃ b ∈ p.blocks, b.isRetrieved = false

def Done (p : Piece) : Prop := ∀ b ∈ p.blocks, b = .released

def Asks (p : Piece) (r : BlockRequest) : Prop :=
  ∃ k, p.blocks[k]? = some .requested ∧ r = p.requestFor k

theorem Fresh.filling {p : Piece} (fresh : p.Fresh) (filled : 0 < p.length) : p.Filling where
  kept := by
    intro b found
    rw [fresh b found]
    simp
  fits := by
    intro k data found
    cases fresh _ (List.mem_of_getElem? found)
  unfinished := by
    have first := List.getElem_mem (blocks_pos filled)
    exact ⟨_, first, by rw [fresh _ first]; rfl⟩

theorem Filling.modify_request {p : Piece} {k : Nat} (filling : p.Filling)
    (free : p.blocks[k]? = some .missing) : (p.modify k Block.request).Filling where
  kept := by
    intro b member
    rcases mem_modify_cases member with ⟨old, known, rfl⟩ | before
    · rw [free] at known
      cases known
      simp [Block.request]
    · exact filling.kept b before
  fits := by
    intro j data found
    rcases blocks_modify_cases found with ⟨_, old, known, held⟩ | ⟨_, before⟩
    · rw [free] at known
      cases known
      cases held
    · rw [(same_modify p k _).blockLength]
      exact filling.fits j data before
  unfinished := ⟨_, List.mem_of_getElem? (blocks_modify_at _ free), rfl⟩

theorem Filling.data?_isSome_iff {p : Piece} {k : Nat} {b : Block} (filling : p.Filling)
    (place : p.blocks[k]? = some b) : b.data?.isSome = true ↔ b.isRetrieved = true := by
  cases b with
  | missing => exact Iff.rfl
  | requested => exact Iff.rfl
  | held data => exact Iff.rfl
  | released => exact absurd rfl (filling.kept _ (List.mem_of_getElem? place))

theorem Filling.length_of_data? {p : Piece} {k : Nat} {b : Block} {data : Bytes}
    (filling : p.Filling) (place : p.blocks[k]? = some b) (here : b.data? = some data) :
    data.length = p.blockLength k := by
  cases b with
  | held =>
    cases here
    exact filling.fits k _ place
  | _ => cases here

theorem Filling.modify_held {p : Piece} {k : Nat} {data : Bytes} (filling : p.Filling)
    (fits : data.length = p.blockLength k)
    (unfinished : (p.modify k fun _ => .held data).isComplete = false) :
    (p.modify k fun _ => .held data).Filling where
  kept := by
    intro b member
    rcases mem_modify_cases member with ⟨_, _, rfl⟩ | before
    · simp
    · exact filling.kept b before
  fits := by
    intro j other found
    rw [(same_modify p k _).blockLength]
    rcases blocks_modify_cases found with ⟨rfl, _, _, held⟩ | ⟨_, before⟩
    · cases held
      exact fits
    · exact filling.fits j other before
  unfinished := by
    simpa [isComplete] using unfinished

theorem fresh_reset (p : Piece) : p.reset.Fresh := fun _ found => eq_missing_of_mem_reset found

theorem done_release {p : Piece} (arrived : ∀ b ∈ p.blocks, b.isRetrieved = true) :
    p.release.Done := by
  intro b member
  obtain ⟨old, known, rfl⟩ := mem_map_blocks.1 member
  exact Block.release_of_isRetrieved (arrived old known)

theorem not_asks_of_forall_ne {p : Piece} (none_out : ∀ b ∈ p.blocks, b ≠ .requested)
    (r : BlockRequest) : ¬ p.Asks r := by
  intro asks
  obtain ⟨k, found, _⟩ := asks
  exact none_out _ (List.mem_of_getElem? found) rfl

theorem Fresh.not_asks {p : Piece} (fresh : p.Fresh) (r : BlockRequest) : ¬ p.Asks r :=
  not_asks_of_forall_ne (fun b found => by rw [fresh b found]; simp) r

theorem Done.not_asks {p : Piece} (done : p.Done) (r : BlockRequest) : ¬ p.Asks r :=
  not_asks_of_forall_ne (fun b found => by rw [done b found]; simp) r

theorem asks_modify_request {p : Piece} {k : Nat} (found : p.blocks[k]? = some .missing)
    (r : BlockRequest) : (p.modify k Block.request).Asks r ↔ p.Asks r ∨ r = p.requestFor k := by
  constructor
  · intro asks
    obtain ⟨j, asked, rfl⟩ := asks
    rcases blocks_modify_cases asked with ⟨rfl, _⟩ | ⟨_, before⟩
    · exact Or.inr rfl
    · exact Or.inl ⟨j, before, rfl⟩
  · intro either
    obtain ⟨j, asked, rfl⟩ | rfl := either
    · have apart : j ≠ k := by
        intro same
        subst same
        rw [found] at asked
        cases asked
      exact ⟨j, (blocks_modify_off p _ apart).trans asked, rfl⟩
    · exact ⟨k, blocks_modify_at _ found, rfl⟩

theorem asks_modify_held {p : Piece} {k : Nat} (reach : p.length ≤ UInt32.size)
    (data : Bytes) (r : BlockRequest) :
    (p.modify k fun _ => .held data).Asks r ↔ p.Asks r ∧ r.offset ≠ blockOffset k := by
  constructor
  · intro asks
    obtain ⟨j, asked, rfl⟩ := asks
    rcases blocks_modify_cases asked with ⟨_, _, _, wrong⟩ | ⟨apart, before⟩
    · cases wrong
    · refine ⟨⟨j, before, rfl⟩, ?_⟩
      rw [(same_modify p k _).requestFor,
        requestFor_eq reach (List.getElem?_eq_some_iff.1 before).1]
      exact fun same => apart (blockOffset_injective same)
  · intro kept
    obtain ⟨⟨j, asked, rfl⟩, elsewhere⟩ := kept
    rw [requestFor_eq reach (List.getElem?_eq_some_iff.1 asked).1] at elsewhere
    have apart : j ≠ k := fun same => elsewhere (congrArg blockOffset same)
    exact ⟨j, (blocks_modify_off p _ apart).trans asked, rfl⟩

end Piece

namespace Transfer

def requests (t : Transfer) : List BlockRequest := t.openRequests.map (·.request)

def Asked (t : Transfer) (r : BlockRequest) : Prop :=
  ∃ p, t.pieces[r.piece]? = some p ∧ p.Asks r

/-- The piece is the one of its index in the content, and looks as its pool says. -/
structure Suits (t : Transfer) (i : Nat) (p : Piece) : Prop where
  index : p.index = i
  length : p.length = t.content.sizeAt i
  hash : t.content.pieceHash? i = some p.hash
  fresh : i ∈ t.missing → p.Fresh
  filling : i ∈ t.ongoing → p.Filling
  done : i ∈ t.finished → p.Done

/-- What holds of a download between two calls. -/
structure Sound (t : Transfer) : Prop where
  wellFormed : t.content.WellFormed
  pieces_length : t.pieces.length = t.totalPieces
  suits : ∀ i p, t.pieces[i]? = some p → t.Suits i p
  pools : (t.missing ++ (t.ongoing ++ t.finished)).Perm (List.range t.totalPieces)
  places : (t.requests.map BlockRequest.place).Nodup
  requests_iff : ∀ r, r ∈ t.requests ↔ t.Asked r

namespace Sound

variable {t t' : Transfer} {i : Nat} {p q : Piece}

/-! ### The pools -/

theorem mem_pools (sound : t.Sound) :
    i ∈ t.missing ∨ i ∈ t.ongoing ∨ i ∈ t.finished ↔ i < t.totalPieces := by
  have known := sound.pools.mem_iff (a := i)
  simpa only [List.mem_append, List.mem_range] using known

theorem pools_nodup (sound : t.Sound) : (t.missing ++ (t.ongoing ++ t.finished)).Nodup :=
  sound.pools.nodup_iff.2 List.nodup_range

theorem missing_disjoint_ongoing (sound : t.Sound) : t.missing.Disjoint t.ongoing := by
  intro j first second
  exact List.disjoint_of_nodup_append sound.pools_nodup first (List.mem_append_left _ second)

theorem missing_disjoint_finished (sound : t.Sound) : t.missing.Disjoint t.finished := by
  intro j first second
  exact List.disjoint_of_nodup_append sound.pools_nodup first (List.mem_append_right _ second)

theorem begun_nodup (sound : t.Sound) : (t.ongoing ++ t.finished).Nodup :=
  (List.nodup_append'.1 sound.pools_nodup).2.1

theorem ongoing_disjoint_finished (sound : t.Sound) : t.ongoing.Disjoint t.finished :=
  List.disjoint_of_nodup_append sound.begun_nodup

theorem missing_nodup (sound : t.Sound) : t.missing.Nodup :=
  (List.nodup_append'.1 sound.pools_nodup).1

theorem ongoing_nodup (sound : t.Sound) : t.ongoing.Nodup :=
  (List.nodup_append'.1 sound.begun_nodup).1

theorem finished_nodup (sound : t.Sound) : t.finished.Nodup :=
  (List.nodup_append'.1 sound.begun_nodup).2.1

theorem lt_of_missing (sound : t.Sound) (member : i ∈ t.missing) : i < t.totalPieces :=
  sound.mem_pools.1 (Or.inl member)

theorem lt_of_ongoing (sound : t.Sound) (member : i ∈ t.ongoing) : i < t.totalPieces :=
  sound.mem_pools.1 (Or.inr (Or.inl member))

theorem lt_of_finished (sound : t.Sound) (member : i ∈ t.finished) : i < t.totalPieces :=
  sound.mem_pools.1 (Or.inr (Or.inr member))

/-! ### The pieces of a pool -/

theorem exists_piece (sound : t.Sound) (known : i < t.totalPieces) :
    ∃ p, t.pieces[i]? = some p := by
  rw [← sound.pieces_length] at known
  exact ⟨_, List.getElem?_eq_getElem known⟩

theorem exists_fresh (sound : t.Sound) (waiting : i ∈ t.missing) :
    ∃ p, t.pieces[i]? = some p ∧ p.Fresh := by
  obtain ⟨p, found⟩ := sound.exists_piece (sound.lt_of_missing waiting)
  exact ⟨p, found, (sound.suits i p found).fresh waiting⟩

theorem exists_filling (sound : t.Sound) (begun : i ∈ t.ongoing) :
    ∃ p, t.pieces[i]? = some p ∧ p.Filling := by
  obtain ⟨p, found⟩ := sound.exists_piece (sound.lt_of_ongoing begun)
  exact ⟨p, found, (sound.suits i p found).filling begun⟩

theorem exists_done (sound : t.Sound) (done : i ∈ t.finished) :
    ∃ p, t.pieces[i]? = some p ∧ p.Done := by
  obtain ⟨p, found⟩ := sound.exists_piece (sound.lt_of_finished done)
  exact ⟨p, found, (sound.suits i p found).done done⟩

theorem mem_finished_of_isComplete (sound : t.Sound) (complete : t.isComplete = true)
    (known : i < t.totalPieces) : i ∈ t.finished := by
  have count := sound.pools.length_eq
  have all : t.finished.length = t.totalPieces := by simpa [isComplete] using complete
  rw [List.length_append, List.length_append, List.length_range, all] at count
  have noMissing : t.missing = [] := List.eq_nil_of_length_eq_zero (by omega)
  have noOngoing : t.ongoing = [] := List.eq_nil_of_length_eq_zero (by omega)
  have pool := sound.mem_pools.2 known
  rw [noMissing, noOngoing] at pool
  simpa using pool

end Sound

end Transfer

end Swarm
