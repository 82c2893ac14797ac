import Swarm.Proofs.Transfer.Progress
import Swarm.Proofs.Transfer.Roster

/-!
The rule by which a peer is asked for a block, and that it is followed.

Each stage of the search has an equivalence that says what it finds: the first request that is due,
the first begun piece with a block to ask for, the new piece that is to be begun first. Put together
they say that a call makes the one choice that the rule allows, with all it changes.
-/

namespace Swarm

structure Piece.FirstMissing (p : Piece) (k : Nat) : Prop where
  free : p.blocks[k]? = some .missing
  lowest : ∀ j < k, p.blocks[j]? ≠ some .missing

namespace Transfer

open Storage (OutputFile)

/-- A request that is out has waited too long, and its piece is in the peer's set. -/
structure Due (t : Transfer) (bits : Bytes) (now : Nat) (o : OpenRequest) : Prop where
  has : Bitfield.has bits o.request.piece = true
  old : t.requestTimeout ≤ now - o.issuedAt

/-- The piece is in the peer's set, and nobody was asked for some block of it. -/
structure Offers (t : Transfer) (bits : Bytes) (i : Nat) : Prop where
  has : Bitfield.has bits i = true
  free : ∃ p, t.pieces[i]? = some p ∧ .missing ∈ p.blocks

/-- Piece `i` is begun before piece `j`: fewer peers have it, or as many have it and it is not the
later one. -/
def Precedes (t : Transfer) (i j : Nat) : Prop :=
  t.supply i < t.supply j ∨ t.supply i = t.supply j ∧ i ≤ j

inductive Choice (t : Transfer) (bits : Bytes) (now : Nat) :
    Option BlockRequest → Transfer → Prop where
  /-- The first request that is due is made again, and counts from now on. -/
  | again {before after : List OpenRequest} {o : OpenRequest}
      (out : t.openRequests = before ++ o :: after) (due : t.Due bits now o)
      (first : ∀ earlier ∈ before, ¬ t.Due bits now earlier) :
      Choice t bits now (some o.request)
        { t with openRequests := before ++ { o with issuedAt := now } :: after }
  /-- Where none is due, the first piece that was begun and has a block to ask for gives its first
  such block. -/
  | ongoing {before after : List Nat} {i k : Nat} {p : Piece}
      (none_due : ∀ o ∈ t.openRequests, ¬ t.Due bits now o)
      (begun : t.ongoing = before ++ i :: after) (has : Bitfield.has bits i = true)
      (first : ∀ j ∈ before, ¬ t.Offers bits j)
      (found : t.pieces[i]? = some p) (block : p.FirstMissing k) :
      Choice t bits now (some ⟨i, k * blockSize, p.blockLength k⟩)
        { t with
          pieces := t.pieces.set i (p.modify k fun _ => .requested)
          openRequests := t.openRequests ++ [⟨⟨i, k * blockSize, p.blockLength k⟩, now⟩] }
  /-- Where there is none either, the piece that the fewest peers have is begun. -/
  | new {i : Nat} {p : Piece}
      (none_due : ∀ o ∈ t.openRequests, ¬ t.Due bits now o)
      (none_begun : ∀ j ∈ t.ongoing, ¬ t.Offers bits j)
      (waiting : i ∈ t.missing) (has : Bitfield.has bits i = true)
      (least : ∀ j ∈ t.missing, Bitfield.has bits j = true → t.Precedes i j)
      (found : t.pieces[i]? = some p) :
      Choice t bits now (some ⟨i, 0, p.blockLength 0⟩)
        { t with
          pieces := t.pieces.set i (p.modify 0 fun _ => .requested)
          missing := t.missing.erase i
          ongoing := t.ongoing ++ [i]
          openRequests := t.openRequests ++ [⟨⟨i, 0, p.blockLength 0⟩, now⟩] }
  | nothing (none_due : ∀ o ∈ t.openRequests, ¬ t.Due bits now o)
      (none_begun : ∀ j ∈ t.ongoing, ¬ t.Offers bits j)
      (none_new : ∀ j ∈ t.missing, Bitfield.has bits j = false) :
      Choice t bits now none t

variable {t next : Transfer} {peer : PeerId} {bits : Bytes} {now i k : Nat} {p : Piece}
  {r : BlockRequest}

/-! ### The first block of a piece -/

theorem firstMissing?_eq_some_iff : p.firstMissing? = some k ↔ p.FirstMissing k := by
  rw [Piece.firstMissing?, List.findIdx?_eq_some_iff_getElem]
  constructor
  · intro first
    obtain ⟨inside, free, lowest⟩ := first
    refine ⟨?_, ?_⟩
    · rw [List.getElem?_eq_getElem inside, eq_of_beq free]
    · intro j before place
      obtain ⟨known, same⟩ := List.getElem?_eq_some_iff.1 place
      exact lowest j before (beq_iff_eq.2 same)
  · intro first
    obtain ⟨inside, free⟩ := List.getElem?_eq_some_iff.1 first.free
    refine ⟨inside, beq_iff_eq.2 free, ?_⟩
    intro j before same
    refine first.lowest j before ?_
    rw [List.getElem?_eq_getElem (Nat.lt_trans before inside), eq_of_beq same]

theorem takeBlock?_eq_some_iff : t.takeBlock? now i = some (r, next) ↔
    ∃ p k, t.pieces[i]? = some p ∧ p.FirstMissing k ∧ r = p.requestFor k ∧
      next = t.ask i p k now := by
  unfold takeBlock? Piece.takeMissing
  cases found : t.pieces[i]? with
  | none => simp
  | some p =>
    dsimp only
    cases first : p.firstMissing? with
    | none =>
      have absent : ∀ k, ¬ p.FirstMissing k := by
        intro k block
        rw [firstMissing?_eq_some_iff.2 block] at first
        cases first
      simp [absent]
    | some k =>
      have only : ∀ j, p.FirstMissing j ↔ k = j := by
        intro j
        rw [← firstMissing?_eq_some_iff, first, Option.some.injEq]
      simp [only, ask, eq_comm]

theorem takeBlock?_eq_none_iff : t.takeBlock? now i = none ↔
    ¬ ∃ p, t.pieces[i]? = some p ∧ .missing ∈ p.blocks := by
  unfold takeBlock?
  cases found : t.pieces[i]? with
  | none => simp
  | some p =>
    dsimp only
    cases taken : p.takeMissing with
    | none =>
      have asked := Piece.takeMissing_eq_none_iff.1 taken
      simpa using fun free => asked _ free rfl
    | some result =>
      obtain ⟨k, free, -⟩ := Piece.takeMissing_eq_some (r := result.1) (q := result.2) taken
      simpa using List.mem_of_getElem? free

/-! ### The first of the begun pieces -/

private theorem findSome?_filter_eq_some_iff {α β : Type} {test : α → Bool} {f : α → Option β}
    {l : List α} {b : β} : (l.filter test).findSome? f = some b ↔
      ∃ before a after, l = before ++ a :: after ∧ test a = true ∧ f a = some b ∧
        ∀ x ∈ before, test x = true → f x = none := by
  rw [List.findSome?_eq_some_iff]
  constructor
  · intro found
    obtain ⟨before, a, after, split, here, nowhere⟩ := found
    obtain ⟨front, back, rfl, rfl, rest⟩ := List.filter_eq_append_iff.1 split
    obtain ⟨skipped, behind, rfl, failed, passes, -⟩ := List.filter_eq_cons_iff.1 rest
    refine ⟨front ++ skipped, a, behind, by simp, passes, here, ?_⟩
    intro x member pass
    rcases List.mem_append.1 member with early | late
    · exact nowhere x (List.mem_filter.2 ⟨early, pass⟩)
    · exact absurd pass (failed x late)
  · intro split
    obtain ⟨before, a, after, rfl, passes, here, nowhere⟩ := split
    refine ⟨before.filter test, a, after.filter test, ?_, here, ?_⟩
    · rw [List.filter_append, List.filter_cons_of_pos passes]
    · intro x member
      obtain ⟨early, pass⟩ := List.mem_filter.1 member
      exact nowhere x early pass

theorem offers_iff (now : Nat) : t.Offers bits i ↔
    Bitfield.has bits i = true ∧ t.takeBlock? now i ≠ none := by
  rw [Ne, takeBlock?_eq_none_iff, not_not]
  exact ⟨fun offers => ⟨offers.has, offers.free⟩, fun both => ⟨both.1, both.2⟩⟩

theorem takeOngoing?_eq_some_iff : t.takeOngoing? bits now = some (r, next) ↔
    ∃ before i after p k, t.ongoing = before ++ i :: after ∧ Bitfield.has bits i = true ∧
      (∀ j ∈ before, ¬ t.Offers bits j) ∧ t.pieces[i]? = some p ∧ p.FirstMissing k ∧
      r = p.requestFor k ∧ next = t.ask i p k now := by
  have passed : ∀ j, (Bitfield.has bits j = true → t.takeBlock? now j = none) ↔
      ¬ t.Offers bits j := by
    intro j
    rw [offers_iff now, not_and, not_not]
  simp only [takeOngoing?, findSome?_filter_eq_some_iff, passed, takeBlock?_eq_some_iff]
  constructor
  · intro found
    obtain ⟨before, i, after, begun, has, ⟨p, k, rest⟩, first⟩ := found
    exact ⟨before, i, after, p, k, begun, has, first, rest⟩
  · intro found
    obtain ⟨before, i, after, p, k, begun, has, first, rest⟩ := found
    exact ⟨before, i, after, begun, has, ⟨p, k, rest⟩, first⟩

theorem takeOngoing?_eq_none_iff :
    t.takeOngoing? bits now = none ↔ ∀ j ∈ t.ongoing, ¬ t.Offers bits j := by
  simp only [takeOngoing?, List.findSome?_eq_none_iff, List.mem_filter, and_imp,
    offers_iff now, not_and, not_not]

/-! ### The piece to begin -/

theorem Precedes.refl (t : Transfer) (i : Nat) : t.Precedes i i := Or.inr ⟨rfl, Nat.le_refl i⟩

theorem Precedes.trans {i j m : Nat} (first : t.Precedes i j) (second : t.Precedes j m) :
    t.Precedes i m := by
  unfold Precedes at *
  omega

theorem Precedes.antisymm {i j : Nat} (first : t.Precedes i j) (second : t.Precedes j i) :
    i = j := by
  unfold Precedes at *
  omega

/-- Of two pieces in ascending order, the one that is taken precedes both. -/
theorem precedes_rarer (once : t.OneEntryEach) {i j : Nat} (ascending : i < j) :
    t.Precedes (t.rarer i j) i ∧ t.Precedes (t.rarer i j) j := by
  rw [rarer, once.holders_eq, once.holders_eq]
  split
  next fewer => exact ⟨Or.inl fewer, .refl t j⟩
  next enough => exact ⟨.refl t i, by unfold Precedes; omega⟩

theorem precedes_foldl_rarer (once : t.OneEntryEach) (rest : List Nat) (first : Nat)
    (ascending : (first :: rest).Pairwise (· < ·)) :
    ∀ j ∈ first :: rest, t.Precedes (rest.foldl t.rarer first) j := by
  induction rest generalizing first with
  | nil =>
    intro j only
    rw [List.mem_singleton.1 only]
    exact .refl t first
  | cons second rest ih =>
    obtain ⟨before, later⟩ := List.pairwise_cons.1 ascending
    have taken : t.rarer first second = first ∨ t.rarer first second = second := by
      unfold rarer
      split
      · exact Or.inr rfl
      · exact Or.inl rfl
    have order : (t.rarer first second :: rest).Pairwise (· < ·) := by
      rcases taken with same | same
      · rw [same]
        exact ascending.sublist ((List.sublist_cons_self second rest).cons_cons first)
      · rw [same]
        exact later
    have least := ih (t.rarer first second) order
    obtain ⟨left, right⟩ := precedes_rarer once (before second List.mem_cons_self)
    have chosen := least _ List.mem_cons_self
    intro j member
    rcases List.mem_cons.1 member with rfl | member
    · exact chosen.trans left
    · rcases List.mem_cons.1 member with rfl | member
      · exact chosen.trans right
      · exact least j (List.mem_cons_of_mem _ member)

theorem rarest?_eq_some_iff (once : t.OneEntryEach) {pieces : List Nat}
    (ascending : pieces.Pairwise (· < ·)) :
    t.rarest? pieces = some i ↔ i ∈ pieces ∧ ∀ j ∈ pieces, t.Precedes i j := by
  have least : ∀ m, t.rarest? pieces = some m → m ∈ pieces ∧ ∀ j ∈ pieces, t.Precedes m j := by
    intro m chosen
    refine ⟨mem_of_rarest? chosen, ?_⟩
    cases pieces with
    | nil => cases chosen
    | cons first rest =>
      cases chosen
      exact precedes_foldl_rarer once rest first ascending
  constructor
  · exact least i
  · intro both
    obtain ⟨member, before⟩ := both
    cases chosen : t.rarest? pieces with
    | none =>
      rw [rarest?_eq_none_iff.1 chosen] at member
      cases member
    | some m =>
      obtain ⟨known, earlier⟩ := least m chosen
      rw [(earlier i member).antisymm (before m known)]

theorem nextPiece?_eq_some_iff (once : t.OneEntryEach) (ascending : t.missing.Pairwise (· < ·)) :
    t.nextPiece? bits = some i ↔ i ∈ t.missing ∧ Bitfield.has bits i = true ∧
      ∀ j ∈ t.missing, Bitfield.has bits j = true → t.Precedes i j := by
  rw [nextPiece?, rarest?_eq_some_iff once (ascending.sublist List.filter_sublist)]
  simp only [List.mem_filter, and_imp, and_assoc]

theorem nextPiece?_eq_none_iff :
    t.nextPiece? bits = none ↔ ∀ j ∈ t.missing, Bitfield.has bits j = false := by
  simp only [nextPiece?, rarest?_eq_none_iff, List.filter_eq_nil_iff, Bool.not_eq_true]

/-! ### What is kept in order -/

theorem CallStep.missing_sublist {c : Call} (step : CallStep t c next) :
    next.missing.Sublist t.missing := by
  cases step with
  | peers => exact .refl _
  | pick step =>
    cases step with
    | new => exact List.erase_sublist
    | _ => exact .refl _
  | deliver step => cases step <;> exact .refl _

theorem Sound.missing_ascending (sound : t.Sound) (ascending : t.missing.Pairwise (· < ·))
    (calls : List Call) : (t.after calls).missing.Pairwise (· < ·) := by
  refine (sound.after_induction (P := fun u => u.missing.Pairwise (· < ·)) calls ?_ ascending).2
  intro c _ u v _ step before
  exact before.sublist step.missing_sublist

/-- Requests that are out stay in the order in which they were first made. -/
theorem CallStep.requests_order {c : Call} (step : CallStep t c next) :
    next.requests.Sublist t.requests ∨ ∃ r, next.requests = t.requests ++ [r] := by
  cases step with
  | peers => exact Or.inl (.refl _)
  | pick step =>
    cases step with
    | unknown => exact Or.inl (.refl _)
    | nothing => exact Or.inl (.refl _)
    | again _ out => exact Or.inl (by rw [requests_renew out])
    | ongoing => exact Or.inr ⟨_, requests_ask ..⟩
    | new => exact Or.inr ⟨_, requests_ask ..⟩
  | deliver step =>
    cases step with
    | late => exact Or.inl (.refl _)
    | unsolicited => exact Or.inl (.refl _)
    | refused => exact Or.inl (.refl _)
    | stored => exact Or.inl (List.filter_sublist.map _)
    | rejected => exact Or.inl (List.filter_sublist.map _)
    | unwritten => exact Or.inl (List.filter_sublist.map _)
    | written => exact Or.inl (List.filter_sublist.map _)

/-- Pieces that were begun stay in the order in which they were. -/
theorem CallStep.ongoing_order {c : Call} (step : CallStep t c next) :
    next.ongoing.Sublist t.ongoing ∨ ∃ i, next.ongoing = t.ongoing ++ [i] := by
  cases step with
  | peers => exact Or.inl (.refl _)
  | pick step =>
    cases step with
    | new => exact Or.inr ⟨_, rfl⟩
    | _ => exact Or.inl (.refl _)
  | deliver step =>
    cases step with
    | written => exact Or.inl List.filter_sublist
    | _ => exact Or.inl (.refl _)

/-! ### The choice is made -/

theorem due_iff {o : OpenRequest} : t.Due bits now o ↔ t.canReissue bits now o = true := by
  rw [canReissue_iff]
  exact ⟨fun due => ⟨due.has, due.old⟩, fun both => ⟨both.1, both.2⟩⟩

theorem none_due_iff : (∀ o ∈ t.openRequests, ¬ t.Due bits now o) ↔
    t.openRequests.findIdx? (t.canReissue bits now) = none := by
  simp only [List.findIdx?_eq_none_iff, due_iff, Bool.not_eq_true]

theorem first_due_iff {before after : List OpenRequest} {o : OpenRequest}
    (out : t.openRequests = before ++ o :: after) :
    t.openRequests.findIdx? (t.canReissue bits now) = some before.length ↔
      t.Due bits now o ∧ ∀ earlier ∈ before, ¬ t.Due bits now earlier := by
  have here : ∀ inside : before.length < t.openRequests.length,
      t.openRequests[before.length] = o := by
    simp [out]
  simp only [List.findIdx?_eq_some_iff_getElem, due_iff]
  constructor
  · intro found
    obtain ⟨inside, due, early⟩ := found
    refine ⟨here inside ▸ due, ?_⟩
    intro earlier member
    obtain ⟨j, below, rfl⟩ := List.getElem_of_mem member
    have place := early j below
    simpa [out, List.getElem_append_left below] using place
  · intro first
    have inside : before.length < t.openRequests.length := by simp [out]
    refine ⟨inside, (here inside).symm ▸ first.1, ?_⟩
    intro j below
    have place := first.2 _ (List.getElem_mem below)
    simpa [out, List.getElem_append_left below] using place

theorem renew_eq {before after : List OpenRequest} {o : OpenRequest}
    (out : t.openRequests = before ++ o :: after) : t.renew before.length o now =
      { t with openRequests := before ++ { o with issuedAt := now } :: after } := by
  simp [renew, out]

theorem Sound.ask_eq (sound : t.Sound) (found : t.pieces[i]? = some p)
    (free : p.blocks[k]? = some .missing) (now : Nat) :
    p.requestFor k = ⟨i, k * blockSize, p.blockLength k⟩ ∧ t.ask i p k now =
      { t with
        pieces := t.pieces.set i (p.modify k fun _ => .requested)
        openRequests := t.openRequests ++ [⟨⟨i, k * blockSize, p.blockLength k⟩, now⟩] } := by
  have request := sound.requestFor_eq found (List.getElem?_eq_some_iff.1 free).1
  have marked : p.modify k Block.request = p.modify k fun _ => .requested := by
    refine Piece.Same.eq ⟨rfl, rfl, rfl⟩ ?_
    apply List.ext_getElem?
    intro j
    by_cases here : j = k
    · subst here
      rw [Piece.blocks_modify_at _ free, Piece.blocks_modify_at _ free]
      rfl
    · rw [Piece.blocks_modify_off p _ here, Piece.blocks_modify_off p _ here]
  refine ⟨request, ?_⟩
  rw [Transfer.ask, marked, request]
  rfl

theorem Sound.firstMissing_of_waiting (sound : t.Sound) (waiting : i ∈ t.missing)
    (found : t.pieces[i]? = some p) : p.FirstMissing 0 := by
  have first := Piece.blocks_pos (sound.length_pos found)
  refine ⟨?_, nofun⟩
  rw [List.getElem?_eq_getElem first,
    (sound.suits i p found).fresh waiting _ (List.getElem_mem first)]

theorem takeNew_of_none (none_new : ∀ j ∈ t.missing, Bitfield.has bits j = false) :
    t.takeNew bits now = (none, t) := by
  rw [takeNew, nextPiece?_eq_none_iff.2 none_new]

theorem Sound.takeNew_of_least (sound : t.Sound) (once : t.OneEntryEach)
    (ascending : t.missing.Pairwise (· < ·)) (waiting : i ∈ t.missing)
    (has : Bitfield.has bits i = true)
    (least : ∀ j ∈ t.missing, Bitfield.has bits j = true → t.Precedes i j)
    (found : t.pieces[i]? = some p) :
    t.takeNew bits now = (some (p.requestFor 0), (t.startPiece i).ask i p 0 now) := by
  have chosen := (nextPiece?_eq_some_iff once ascending).2 ⟨waiting, has, least⟩
  have block := sound.firstMissing_of_waiting waiting found
  have taken : (t.startPiece i).takeBlock? now i =
      some (p.requestFor 0, (t.startPiece i).ask i p 0 now) :=
    takeBlock?_eq_some_iff.2 ⟨p, 0, found, block, rfl, rfl⟩
  simp only [takeNew, chosen, taken]

theorem Sound.pick_of_choice (sound : t.Sound) (once : t.OneEntryEach)
    (ascending : t.missing.Pairwise (· < ·)) (known : t.bitfield? peer = some bits)
    {answer : Option BlockRequest} (choice : t.Choice bits now answer next) :
    t.pick peer now = (.ok answer, next) := by
  unfold pick
  simp only [known]
  cases choice with
  | @again before after o out due first =>
    have place := (first_due_iff out).2 ⟨due, first⟩
    have there : t.openRequests[before.length]? = some o := by simp [out]
    simp only [place, there, sound.reissue_eq there, renew_eq out]
  | @ongoing before after i k p none_due begun has first found block =>
    obtain ⟨request, change⟩ := sound.ask_eq found block.free now
    have taken : t.takeOngoing? bits now = some (p.requestFor k, t.ask i p k now) :=
      takeOngoing?_eq_some_iff.2 ⟨before, i, after, p, k, begun, has, first, found, block, rfl, rfl⟩
    simp only [none_due_iff.1 none_due, taken, request, change]
  | @new i p none_due none_begun waiting has least found =>
    have block := sound.firstMissing_of_waiting waiting found
    obtain ⟨request, change⟩ := (sound.startPiece waiting).ask_eq found block.free now
    simp only [none_due_iff.1 none_due, takeOngoing?_eq_none_iff.2 none_begun,
      sound.takeNew_of_least once ascending waiting has least found, request, change]
    rfl
  | nothing none_due none_begun none_new =>
    simp only [none_due_iff.1 none_due, takeOngoing?_eq_none_iff.2 none_begun,
      takeNew_of_none none_new]

theorem Sound.exists_choice (sound : t.Sound) (once : t.OneEntryEach)
    (ascending : t.missing.Pairwise (· < ·)) (bits : Bytes) (now : Nat) :
    ∃ answer next, t.Choice bits now answer next := by
  cases place : t.openRequests.findIdx? (t.canReissue bits now) with
  | some k =>
    have inside := (List.findIdx?_eq_some_iff_getElem.1 place).1
    have out : t.openRequests =
        t.openRequests.take k ++ t.openRequests[k] :: t.openRequests.drop (k + 1) := by
      rw [List.getElem_cons_drop, List.take_append_drop]
    have length : (t.openRequests.take k).length = k := List.length_take_of_le inside.le
    obtain ⟨due, first⟩ := (first_due_iff out).1 (by rw [length, place])
    exact ⟨_, _, .again out due first⟩
  | none =>
    have none_due := none_due_iff.2 place
    cases taken : t.takeOngoing? bits now with
    | some result =>
      obtain ⟨request, changed⟩ := result
      obtain ⟨before, i, after, p, k, begun, has, first, found, block, -⟩ :=
        takeOngoing?_eq_some_iff.1 taken
      exact ⟨_, _, .ongoing none_due begun has first found block⟩
    | none =>
      have none_begun := takeOngoing?_eq_none_iff.1 taken
      cases chosen : t.nextPiece? bits with
      | some i =>
        obtain ⟨waiting, has, least⟩ := (nextPiece?_eq_some_iff once ascending).1 chosen
        obtain ⟨p, found⟩ := sound.exists_piece (sound.lt_of_missing waiting)
        exact ⟨_, _, .new none_due none_begun waiting has least found⟩
      | none => exact ⟨_, _, .nothing none_due none_begun (nextPiece?_eq_none_iff.1 chosen)⟩

theorem Sound.choice_iff (sound : t.Sound) (once : t.OneEntryEach)
    (ascending : t.missing.Pairwise (· < ·)) (known : t.bitfield? peer = some bits)
    {answer : Option BlockRequest} :
    t.Choice bits now answer next ↔ t.pick peer now = (.ok answer, next) := by
  refine ⟨sound.pick_of_choice once ascending known, ?_⟩
  intro picked
  obtain ⟨other, changed, choice⟩ := sound.exists_choice once ascending bits now
  cases picked.symm.trans (sound.pick_of_choice once ascending known choice)
  exact choice

/-- In every state that a download comes to, a registered peer is asked for what the rule says, and
nothing else changes. The lists that the rule goes through are in the order in which the requests
were first made and the pieces begun. -/
theorem pick_by_rule {c : Content} (wf : c.WellFormed) (maxPeers requestTimeout : Nat)
    (file : OutputFile) (calls : List Call) (peer : PeerId) (now : Nat) :
    let t := (start c maxPeers requestTimeout file).after calls
    ∀ bits, t.bitfield? peer = some bits →
      (∃ answer next, t.Choice bits now answer next) ∧
      (∀ answer next, t.Choice bits now answer next ↔ t.pick peer now = (.ok answer, next)) ∧
      ∀ call, ((t.call call).2.requests.Sublist t.requests ∨
          ∃ r, (t.call call).2.requests = t.requests ++ [r]) ∧
        ((t.call call).2.ongoing.Sublist t.ongoing ∨
          ∃ i, (t.call call).2.ongoing = t.ongoing ++ [i]) := by
  intro t bits known
  have first := Sound.start wf maxPeers requestTimeout file
  have sound : t.Sound := first.after calls
  have once : t.OneEntryEach := (oneEntryEach_start c maxPeers requestTimeout file).after calls
  have ascending : t.missing.Pairwise (· < ·) :=
    first.missing_ascending List.pairwise_lt_range calls
  refine ⟨sound.exists_choice once ascending bits now,
    fun _ _ => sound.choice_iff once ascending known, ?_⟩
  intro call
  have step := sound.call_step call
  exact ⟨step.requests_order, step.ongoing_order⟩

theorem pick_by_rule_sample :
    let other : PeerId := Fixed.fill 20 2
    let t := (start Sample.content 4 1000 (.ofContent "out" 3 [9])).after
      [.register Sample.peer [192], .register other [128]]
    Sample.content.WellFormed ∧ t.bitfield? Sample.peer = some [192] ∧ t.missing = [0, 1] ∧
      (t.pick Sample.peer 3).1 = .ok (some ⟨1, 0, 1⟩) ∧
      t.Choice [192] 3 (some ⟨1, 0, 1⟩) (t.pick Sample.peer 3).2 := by
  intro other t
  have known : t.bitfield? Sample.peer = some [192] := by decide +kernel
  have missing : t.missing = [0, 1] := by decide +kernel
  have picked : (t.pick Sample.peer 3).1 = .ok (some ⟨1, 0, 1⟩) := by decide +kernel
  obtain ⟨-, rule, -⟩ := pick_by_rule Sample.wellFormed 4 1000 (.ofContent "out" 3 [9])
    [.register Sample.peer [192], .register other [128]] Sample.peer 3 [192] known
  exact ⟨Sample.wellFormed, known, missing, picked, (rule _ _).2 (Prod.ext picked rfl)⟩

end Transfer

end Swarm
