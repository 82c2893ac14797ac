import Mathlib.Algebra.Order.Floor.Div
import Swarm.Proofs.Torrent.InfoHash

/-!
Which octets are a descriptor, and what is said of those that are not. What a descriptor has to
have is stated of the dictionaries that the octets decode to, without the reader (`Spells`), and so
are the checks that it has to pass (`Check.order`). The reader accepts exactly the descriptors, and
of all others it reports the first check that they fail (`parse_accepts`).

The reader is a chain of steps, each of which makes some of the checks. That a step makes them in
their order and says the right thing of the first that fails is `Reports`, and a chain of steps does
so for the checks of its steps (`Reports.bind`).
-/

namespace Swarm

open Bencode (Value decode)
open Bencode.Value (text?_eq_some_iff bytes?_eq_some_iff word64?_eq_some_iff)

namespace Requirement

def Meets : Requirement → Value → Prop
  | text, v => ∃ s, v = .bytes (Bytes.ofText s)
  | positive, v => ∃ n : Nat, v = .integer n ∧ 1 ≤ n ∧ n ≤ 2 ^ 64 - 1
  | limitedPieceLength, v => ∃ n : Nat, v = .integer n ∧ n ≤ 2 ^ 30
  | octets, v => ∃ b, v = .bytes b
  | dictionary, v => ∃ entries, v = .dict entries

end Requirement

namespace Descriptor

/-! ### What a descriptor has to have -/

/-- The dictionary that a key belongs in: `announce` and `info` in the one that the octets decode
to, and the others in the one under `info`. -/
def home? (data : Bytes) : DescriptorKey → Option Value
  | .announce | .info => (decode data).toOption
  | .name | .length | .pieceLength | .pieces =>
    (decode data).toOption.bind (·.get? (Bytes.ofText DescriptorKey.info.text))

def found? (data : Bytes) (key : DescriptorKey) : Option Value :=
  (home? data key).bind (·.get? (Bytes.ofText key.text))

structure Spells (data : Bytes) (t : Descriptor) : Prop where
  announce : found? data .announce = some (.bytes (Bytes.ofText t.announce))
  info : ∃ entries, found? data .info = some (.dict entries)
  name : found? data .name = some (.bytes (Bytes.ofText t.content.name))
  length : found? data .length = some (.integer t.content.length)
  length_range : 1 ≤ t.content.length ∧ t.content.length ≤ 2 ^ 64 - 1
  pieceLength : found? data .pieceLength = some (.integer t.content.pieceLength)
  pieceLength_range : 1 ≤ t.content.pieceLength ∧ t.content.pieceLength ≤ 2 ^ 30
  /-- The digests are the runs of 20 octets that `pieces` consists of. -/
  pieces : ∃ b, found? data .pieces = some (.bytes b) ∧ b.length = 20 * t.content.hashes.length ∧
    ∀ j < t.content.hashes.length,
      t.content.hashes[j]?.map Subtype.val = some ((b.drop (20 * j)).take 20)
  pieceCount : t.content.hashes.length = t.content.length ⌈/⌉ t.content.pieceLength
  infoHash : ∃ raw, rawInfo data = .ok raw ∧ t.infoHash = sha1 raw

inductive Check where
  | decoding
  | presence (key : DescriptorKey)
  | kind (key : DescriptorKey) (requirement : Requirement)
  | wholeHashes
  | pieceCount

def Check.ofContent : List Check :=
  [.presence .name, .kind .name .text,
    .presence .length, .kind .length .positive,
    .presence .pieceLength, .kind .pieceLength .positive, .kind .pieceLength .limitedPieceLength,
    .presence .pieces, .kind .pieces .octets, .wholeHashes, .pieceCount]

def Check.order : List Check :=
  [.decoding, .presence .announce, .kind .announce .text, .presence .info,
    .kind .info .dictionary] ++ Check.ofContent

def Passes (data : Bytes) : Check → Prop
  | .decoding => ∃ root, decode data = .ok root
  | .presence key => ∃ v, found? data key = some v
  | .kind key requirement => ∃ v, found? data key = some v ∧ requirement.Meets v
  | .wholeHashes => ∃ b, found? data .pieces = some (.bytes b) ∧ 20 ∣ b.length
  | .pieceCount => ∃ (length pieceLength : Nat) (b : Bytes),
    found? data .length = some (.integer length) ∧
    found? data .pieceLength = some (.integer pieceLength) ∧
    found? data .pieces = some (.bytes b) ∧ b.length / 20 = length ⌈/⌉ pieceLength

def Blamed (data : Bytes) (e : DescriptorError) : Check → Prop
  | .decoding => ∃ cause, decode data = .error cause ∧ e = .malformed cause
  | .presence key => e = .missing key
  | .kind key requirement => e = .invalid key requirement
  | .wholeHashes => ∃ b, found? data .pieces = some (.bytes b) ∧ e = .raggedHashes b.length
  | .pieceCount => ∃ (length pieceLength : Nat) (b : Bytes),
    found? data .length = some (.integer length) ∧
    found? data .pieceLength = some (.integer pieceLength) ∧
    found? data .pieces = some (.bytes b) ∧
    e = .pieceCount (length ⌈/⌉ pieceLength) (b.length / 20)

/-- The first of some checks that the octets fail is blamed. -/
def FirstFault (data : Bytes) (e : DescriptorError) : List Check → Prop
  | [] => False
  | check :: more =>
    (¬ Passes data check ∧ Blamed data e check) ∨ (Passes data check ∧ FirstFault data e more)

variable {data : Bytes} {key : DescriptorKey} {check : Check} {checks more : List Check}
variable {e e' : DescriptorError}

theorem Blamed.unique (first : Blamed data e check) (second : Blamed data e' check) : e = e' := by
  cases check with
  | decoding =>
    obtain ⟨cause, failed, rfl⟩ := first
    obtain ⟨_, failed', rfl⟩ := second
    cases failed.symm.trans failed'
    rfl
  | presence key => exact Eq.trans first (Eq.symm second)
  | kind key requirement => exact Eq.trans first (Eq.symm second)
  | wholeHashes =>
    obtain ⟨b, pieces, rfl⟩ := first
    obtain ⟨_, pieces', rfl⟩ := second
    cases pieces.symm.trans pieces'
    rfl
  | pieceCount =>
    obtain ⟨length, pieceLength, b, hl, hp, hb, rfl⟩ := first
    obtain ⟨_, _, _, hl', hp', hb', rfl⟩ := second
    cases hl.symm.trans hl'
    cases hp.symm.trans hp'
    cases hb.symm.trans hb'
    rfl

theorem FirstFault.unique (first : FirstFault data e checks) (second : FirstFault data e' checks) :
    e = e' := by
  induction checks with
  | nil => exact first.elim
  | cons check more ih =>
    rcases first with ⟨fails, blamed⟩ | ⟨passes, later⟩
    · rcases second with ⟨-, blamed'⟩ | ⟨passes', -⟩
      · exact blamed.unique blamed'
      · exact absurd passes' fails
    · rcases second with ⟨fails', -⟩ | ⟨-, later'⟩
      · exact absurd passes fails'
      · exact ih later later'

theorem FirstFault.not_passes (fault : FirstFault data e checks) :
    ¬ ∀ c ∈ checks, Passes data c := by
  induction checks with
  | nil => exact fault.elim
  | cons check more ih =>
    intro all
    rcases fault with ⟨fails, -⟩ | ⟨-, later⟩
    · exact fails (all check List.mem_cons_self)
    · exact ih later fun c member => all c (List.mem_cons_of_mem _ member)

theorem FirstFault.append_right (fault : FirstFault data e checks) (more : List Check) :
    FirstFault data e (checks ++ more) := by
  induction checks with
  | nil => exact fault.elim
  | cons check rest ih => exact fault.imp_right fun later => ⟨later.1, ih later.2⟩

theorem FirstFault.append_left (passed : ∀ c ∈ checks, Passes data c)
    (fault : FirstFault data e more) : FirstFault data e (checks ++ more) := by
  induction checks with
  | nil => exact fault
  | cons check rest ih =>
    exact Or.inr ⟨passed check List.mem_cons_self,
      ih fun c member => passed c (List.mem_cons_of_mem _ member)⟩

/-! ### Steps of the reader, and the checks they make -/

/-- A step succeeds where all of some checks are passed, and fails with what is said of the first
one that is not. -/
structure Reports {α : Type} (data : Bytes) (checks : List Check) (x : Except DescriptorError α) :
    Prop where
  passed : ∀ a, x = .ok a → ∀ c ∈ checks, Passes data c
  fault : ∀ e, x = .error e → FirstFault data e checks

theorem reports_ok {α : Type} (a : α) : Reports data [] (.ok a) :=
  ⟨fun _ _ _ none_left => absurd none_left List.not_mem_nil, nofun⟩

theorem Reports.bind {α β : Type} {x : Except DescriptorError α} {f : α → Except DescriptorError β}
    (first : Reports data checks x) (later : ∀ a, x = .ok a → Reports data more (f a)) :
    Reports data (checks ++ more) (x >>= f) := by
  cases x with
  | error e => exact ⟨nofun, fun _ same => by cases same; exact (first.fault e rfl).append_right _⟩
  | ok a =>
    have passed := first.passed a rfl
    refine ⟨fun b read c member => ?_, fun e failed => ?_⟩
    · exact (List.mem_append.1 member).elim (passed c) ((later a rfl).passed b read c)
    · exact ((later a rfl).fault e failed).append_left passed

theorem reports_singleton {α : Type} {x : Except DescriptorError α}
    (passed : ∀ a, x = .ok a → Passes data check)
    (failed : ∀ e, x = .error e → ¬ Passes data check ∧ Blamed data e check) :
    Reports data [check] x where
  passed := by
    intro a read c member
    cases List.mem_singleton.1 member
    exact passed a read
  fault := fun e same => Or.inl (failed e same)

def refuseIf (p : Prop) [Decidable p] (e : DescriptorError) : Except DescriptorError Unit :=
  if p then .error e else .ok ()

theorem ite_throw_eq {α : Type} {p : Prop} [Decidable p] (e : DescriptorError)
    (next : Unit → Except DescriptorError α) :
    (if p then throw e >>= next else next ()) = refuseIf p e >>= next := by
  unfold refuseIf
  split <;> rfl

theorem refuseIf_eq_ok_iff {p : Prop} [Decidable p] {u : Unit} : refuseIf p e = .ok u ↔ ¬ p := by
  unfold refuseIf
  split <;> simp_all

theorem reports_refuseIf {p : Prop} [Decidable p] (check : Check) (passes : Passes data check ↔ ¬ p)
    (blamed : Blamed data e check) : Reports data [check] (refuseIf p e) := by
  unfold refuseIf
  split
  next holds =>
    refine reports_singleton nofun fun _ same => ?_
    cases same
    exact ⟨fun passed => passes.1 passed holds, blamed⟩
  next fails => exact reports_singleton (fun _ _ => passes.2 fails) nofun

theorem contentOf_eq (info : Value) : contentOf info =
    entryAs info .name .text Value.text? >>= fun name =>
    entryAs info .length .positive positive? >>= fun length =>
    entryAs info .pieceLength .positive positive? >>= fun pieceLength =>
    refuseIf (pieceLength > maxPieceLength) (.invalid .pieceLength .limitedPieceLength) >>= fun _ =>
    entryAs info .pieces .octets Value.bytes? >>= fun pieces =>
    hashes pieces >>= fun hashes =>
    let content : Content := ⟨name, length, pieceLength, hashes⟩
    refuseIf (content.expectedPieces ≠ content.pieceCount)
      (.pieceCount content.expectedPieces content.pieceCount) >>= fun _ => pure content := by
  simp only [contentOf, ← ite_throw_eq]

theorem parse_eq (data : Bytes) : parse data =
    (decode data).mapError .malformed >>= fun root =>
    entryAs root .announce .text Value.text? >>= fun announce =>
    entry root .info >>= fun info =>
    refuseIf (info.entries?.isNone = true) (.invalid .info .dictionary) >>= fun _ =>
    contentOf info >>= fun content =>
    rawInfo data >>= fun raw => pure ⟨announce, sha1 raw, content⟩ := by
  simp only [parse, ← ite_throw_eq]

/-! ### Entries -/

variable {dict root info v : Value} {requirement : Requirement}

theorem found?_eq (home : home? data key = some dict) :
    found? data key = dict.get? (Bytes.ofText key.text) := by
  rw [found?, home, Option.bind_some]

theorem home?_of_decode (whole : decode data = .ok root) :
    home? data .announce = some root ∧ home? data .info = some root := by
  simp [home?, whole, Except.toOption]

theorem home?_of_info (under : found? data .info = some info) :
    home? data .name = some info ∧ home? data .length = some info ∧
      home? data .pieceLength = some info ∧ home? data .pieces = some info :=
  ⟨under, under, under, under⟩

theorem entryAs_eq_ok_iff {α : Type} {read? : Value → Option α} {a : α} :
    entryAs dict key requirement read? = .ok a ↔
      ∃ v, dict.get? (Bytes.ofText key.text) = some v ∧ read? v = some a := by
  unfold entryAs entry
  cases dict.get? (Bytes.ofText key.text) with
  | none => simp
  | some v => cases read : read? v <;> simp [read]

theorem reports_entry (home : home? data key = some dict) :
    Reports data [.presence key] (entry dict key) := by
  have same := found?_eq home
  unfold entry
  split
  next absent =>
    refine reports_singleton nofun fun e failed => ?_
    cases failed
    refine ⟨fun ⟨v, present⟩ => ?_, rfl⟩
    rw [same, absent] at present
    cases present
  next v present => exact reports_singleton (fun _ _ => ⟨v, same.trans present⟩) nofun

theorem reports_entryAs {α : Type} {read? : Value → Option α} (home : home? data key = some dict)
    (reads : ∀ v, (∃ a, read? v = some a) ↔ requirement.Meets v) :
    Reports data [.presence key, .kind key requirement] (entryAs dict key requirement read?) := by
  have chain : entryAs dict key requirement read? = entry dict key >>= fun v =>
      (read? v).elim (.error (.invalid key requirement)) .ok := by
    unfold entryAs
    cases entry dict key with
    | error e => rfl
    | ok v =>
      change _ = (read? v).elim _ _
      dsimp only
      cases read? v <;> rfl
  rw [chain]
  refine (reports_entry home).bind fun v present => ?_
  have under : found? data key = some v := (found?_eq home).trans (entry_eq_ok_iff.1 present)
  cases read : read? v with
  | some a => exact reports_singleton (fun _ _ => ⟨v, under, (reads v).1 ⟨a, read⟩⟩) nofun
  | none =>
    refine reports_singleton nofun fun e failed => ?_
    cases failed
    refine ⟨?_, rfl⟩
    rintro ⟨w, under', meets⟩
    cases under.symm.trans under'
    obtain ⟨a, read'⟩ := (reads v).2 meets
    cases read.symm.trans read'

theorem positive?_eq_some_iff {n : Nat} :
    positive? v = some n ↔ v = .integer n ∧ 1 ≤ n ∧ n ≤ 2 ^ 64 - 1 := by
  rw [positive?, Option.filter_eq_some_iff, word64?_eq_some_iff, decide_eq_true_eq, and_assoc,
    UInt64.size]
  refine and_congr_right fun _ => ?_
  omega

theorem text_entry_iff {s : String} : entryAs dict key requirement Value.text? = .ok s ↔
    dict.get? (Bytes.ofText key.text) = some (.bytes (Bytes.ofText s)) := by
  simp only [entryAs_eq_ok_iff, text?_eq_some_iff, exists_eq_right]

theorem octets_entry_iff {b : Bytes} : entryAs dict key requirement Value.bytes? = .ok b ↔
    dict.get? (Bytes.ofText key.text) = some (.bytes b) := by
  simp only [entryAs_eq_ok_iff, bytes?_eq_some_iff, exists_eq_right]

theorem positive_entry_iff {n : Nat} : entryAs dict key requirement positive? = .ok n ↔
    dict.get? (Bytes.ofText key.text) = some (.integer n) ∧ 1 ≤ n ∧ n ≤ 2 ^ 64 - 1 := by
  simp only [entryAs_eq_ok_iff, positive?_eq_some_iff]
  constructor
  · rintro ⟨v, present, rfl, range⟩
    exact ⟨present, range⟩
  · rintro ⟨present, range⟩
    exact ⟨_, present, rfl, range⟩

/-! ### Digests -/

theorem digests_spec {count : Nat} {b : Bytes} (whole : b.length = 20 * count) :
    (digests count b).length = count ∧
    (∀ j < count, (digests count b)[j]?.map Subtype.val = some ((b.drop (20 * j)).take 20)) ∧
    (digests count b).flatMap Subtype.val = b := by
  induction count generalizing b with
  | zero =>
    have nothing : b = [] := List.eq_nil_of_length_eq_zero whole
    exact ⟨rfl, nofun, nothing.symm⟩
  | succ count ih =>
    have full : (b.take 20).length = 20 := by
      rw [List.length_take]
      omega
    have cut : digests (count + 1) b = ⟨b.take 20, full⟩ :: digests count (b.drop 20) := by
      rw [digests, Bytes.field?, dif_pos full]
    obtain ⟨length, each, all⟩ := ih (b := b.drop 20) (by rw [List.length_drop]; omega)
    rw [cut]
    refine ⟨by rw [List.length_cons, length], fun j inside => ?_, ?_⟩
    · cases j with
      | zero => rfl
      | succ j =>
        rw [List.getElem?_cons_succ, each j (by omega), List.drop_drop, Nat.mul_succ,
          Nat.add_comm 20]
    · rw [List.flatMap_cons, all, List.take_append_drop]

theorem eq_digests {hashes : List Digest} {b : Bytes} (whole : b.length = 20 * hashes.length)
    (each : ∀ j < hashes.length,
      hashes[j]?.map Subtype.val = some ((b.drop (20 * j)).take 20)) :
    hashes = digests hashes.length b := by
  obtain ⟨length, same, -⟩ := digests_spec whole
  apply List.ext_getElem?
  intro j
  by_cases inside : j < hashes.length
  · exact Option.map_injective Subtype.val_injective ((each j inside).trans (same j inside).symm)
  · rw [List.getElem?_eq_none (by omega), List.getElem?_eq_none (by omega)]

theorem hashes_eq_ok_iff {b : Bytes} {list : List Digest} : hashes b = .ok list ↔
    b.length = 20 * list.length ∧ ∀ j < list.length,
      list[j]?.map Subtype.val = some ((b.drop (20 * j)).take 20) := by
  unfold hashes
  split
  next ragged =>
    refine iff_of_false nofun fun ⟨whole, _⟩ => ragged ?_
    rw [whole, Nat.mul_mod_right]
  next whole =>
    have count : b.length = 20 * (b.length / 20) := by omega
    obtain ⟨length, each, -⟩ := digests_spec count
    constructor
    · intro read
      cases read
      rw [length]
      exact ⟨count, each⟩
    · rintro ⟨same, all⟩
      rw [eq_digests same all, same, Nat.mul_div_cancel_left _ (by decide)]

theorem reports_hashes {b : Bytes} (under : found? data .pieces = some (.bytes b)) :
    Reports data [.wholeHashes] (hashes b) := by
  unfold hashes
  split
  next ragged =>
    refine reports_singleton nofun fun e failed => ?_
    cases failed
    refine ⟨fun ⟨b', under', whole⟩ => ?_, b, under, rfl⟩
    cases under.symm.trans under'
    exact ragged (Nat.mod_eq_zero_of_dvd whole)
  next whole =>
    exact reports_singleton
      (fun _ _ => ⟨b, under, Nat.dvd_of_mod_eq_zero (not_not.1 whole)⟩) nofun

/-! ### The content, and the whole descriptor -/

theorem expectedPieces_eq {c : Content} (positive : 1 ≤ c.pieceLength) :
    c.expectedPieces = c.length ⌈/⌉ c.pieceLength := by
  rw [Content.expectedPieces, if_neg (by omega), Nat.ceilDiv_eq_add_pred_div]

theorem reports_contentOf (under : found? data .info = some info) :
    Reports data Check.ofContent (contentOf info) := by
  obtain ⟨homeName, homeLength, homePieceLength, homePieces⟩ := home?_of_info under
  rw [contentOf_eq]
  refine (reports_entryAs homeName fun v => ?_).bind fun name _ => ?_
  · simp only [text?_eq_some_iff]
    exact Iff.rfl
  refine (reports_entryAs homeLength fun v => ?_).bind fun length foundLength => ?_
  · simp only [positive?_eq_some_iff]
    exact Iff.rfl
  refine (reports_entryAs homePieceLength fun v => ?_).bind
    fun pieceLength foundPieceLength => ?_
  · simp only [positive?_eq_some_iff]
    exact Iff.rfl
  have hasLength := (found?_eq homeLength).trans (positive_entry_iff.1 foundLength).1
  obtain ⟨hasPieceLength, positive, -⟩ := positive_entry_iff.1 foundPieceLength
  replace hasPieceLength := (found?_eq homePieceLength).trans hasPieceLength
  have limit : (2 ^ 30 : Nat) = maxPieceLength := by decide
  refine (reports_refuseIf (.kind .pieceLength .limitedPieceLength) ?_ rfl).bind
    fun _ _ => ?_
  · rw [not_lt, ← limit]
    constructor
    · rintro ⟨v, has, n, rfl, small⟩
      cases hasPieceLength.symm.trans has
      exact small
    · exact fun small => ⟨_, hasPieceLength, pieceLength, rfl, small⟩
  refine (reports_entryAs homePieces fun v => ?_).bind fun b foundPieces => ?_
  · simp only [bytes?_eq_some_iff]
    exact Iff.rfl
  have hasPieces := (found?_eq homePieces).trans (octets_entry_iff.1 foundPieces)
  refine (reports_hashes hasPieces).bind fun list cut => ?_
  have whole := (hashes_eq_ok_iff.1 cut).1
  have count : b.length / 20 = list.length := by
    rw [whole, Nat.mul_div_cancel_left _ (by decide)]
  have expected := expectedPieces_eq (c := ⟨name, length, pieceLength, list⟩) positive
  refine (reports_refuseIf .pieceCount ?_ ?_).bind fun _ _ => reports_ok _
  · rw [not_not, expected, Content.pieceCount]
    constructor
    · rintro ⟨l, p, b', has, has', has'', same⟩
      cases hasLength.symm.trans has
      cases hasPieceLength.symm.trans has'
      cases hasPieces.symm.trans has''
      exact (count.symm.trans same).symm
    · exact fun same =>
        ⟨length, pieceLength, b, hasLength, hasPieceLength, hasPieces, count.trans same.symm⟩
  · refine ⟨length, pieceLength, b, hasLength, hasPieceLength, hasPieces, ?_⟩
    rw [expected, count]
    rfl

theorem contentOf_eq_ok_iff {c : Content} : contentOf info = .ok c ↔
    info.get? (Bytes.ofText DescriptorKey.name.text) = some (.bytes (Bytes.ofText c.name)) ∧
    (info.get? (Bytes.ofText DescriptorKey.length.text) = some (.integer c.length) ∧
      1 ≤ c.length ∧ c.length ≤ 2 ^ 64 - 1) ∧
    (info.get? (Bytes.ofText DescriptorKey.pieceLength.text) = some (.integer c.pieceLength) ∧
      1 ≤ c.pieceLength ∧ c.pieceLength ≤ 2 ^ 64 - 1) ∧ c.pieceLength ≤ maxPieceLength ∧
    (∃ b, info.get? (Bytes.ofText DescriptorKey.pieces.text) = some (.bytes b) ∧
      hashes b = .ok c.hashes) ∧ c.expectedPieces = c.pieceCount := by
  simp only [contentOf_eq, bind_eq_ok_iff, text_entry_iff, positive_entry_iff, octets_entry_iff,
    refuseIf_eq_ok_iff, not_lt, not_not]
  constructor
  · rintro ⟨name, hasName, length, hasLength, pieceLength, hasPieceLength, -, limit, b, hasPieces,
      list, cut, -, count, same⟩
    cases same
    exact ⟨hasName, hasLength, hasPieceLength, limit, ⟨b, hasPieces, cut⟩, count⟩
  · rintro ⟨hasName, hasLength, hasPieceLength, limit, ⟨b, hasPieces, cut⟩, count⟩
    exact ⟨_, hasName, _, hasLength, _, hasPieceLength, (), limit, b, hasPieces, _, cut, (), count,
      rfl⟩

theorem exists_root (under : found? data key = some v) : ∃ root, decode data = .ok root := by
  obtain ⟨dict, home, -⟩ := Option.bind_eq_some_iff.1 under
  cases whole : decode data with
  | ok root => exact ⟨root, rfl⟩
  | error e => cases key <;> simp [home?, whole, Except.toOption] at home

/-- What is read is what the octets spell. -/
theorem parse_eq_ok_iff_spells {t : Descriptor} : parse data = .ok t ↔ Spells data t := by
  have limit : maxPieceLength = 2 ^ 30 := by decide
  rw [parse_eq_ok_iff]
  constructor
  · rintro ⟨root, info, raw, whole, announced, found, dict, described, spelled, digest⟩
    obtain ⟨homeAnnounce, homeInfo⟩ := home?_of_decode whole
    have under := (found?_eq homeInfo).trans (entry_eq_ok_iff.1 found)
    obtain ⟨homeName, homeLength, homePieceLength, homePieces⟩ := home?_of_info under
    obtain ⟨name, ⟨length, range⟩, ⟨pieceLength, positive, -⟩, small, ⟨b, pieces, cut⟩, count⟩ :=
      contentOf_eq_ok_iff.1 described
    obtain ⟨entries, rfl⟩ : ∃ entries, info = .dict entries := by
      cases info with
      | dict entries => exact ⟨entries, rfl⟩
      | _ => cases dict
    exact {
      announce := (found?_eq homeAnnounce).trans (text_entry_iff.1 announced)
      info := ⟨entries, under⟩
      name := (found?_eq homeName).trans name
      length := (found?_eq homeLength).trans length
      length_range := range
      pieceLength := (found?_eq homePieceLength).trans pieceLength
      pieceLength_range := ⟨positive, limit ▸ small⟩
      pieces := ⟨b, (found?_eq homePieces).trans pieces, hashes_eq_ok_iff.1 cut⟩
      pieceCount := (count.symm.trans (expectedPieces_eq positive) :)
      infoHash := ⟨raw, spelled, digest⟩ }
  · intro spells
    obtain ⟨entries, under⟩ := spells.info
    obtain ⟨root, whole⟩ := exists_root under
    obtain ⟨homeAnnounce, homeInfo⟩ := home?_of_decode whole
    obtain ⟨homeName, homeLength, homePieceLength, homePieces⟩ := home?_of_info under
    obtain ⟨raw, spelled, digest⟩ := spells.infoHash
    obtain ⟨b, pieces, cut⟩ := spells.pieces
    have positive := spells.pieceLength_range.1
    have small := spells.pieceLength_range.2
    refine ⟨root, .dict entries, raw, whole, ?_, ?_, rfl, ?_, spelled, digest⟩
    · exact text_entry_iff.2 ((found?_eq homeAnnounce).symm.trans spells.announce)
    · exact entry_eq_ok_iff.2 ((found?_eq homeInfo).symm.trans under)
    · refine contentOf_eq_ok_iff.2 ⟨?_, ⟨?_, spells.length_range⟩, ⟨?_, positive, ?_⟩, ?_,
        ⟨b, ?_, hashes_eq_ok_iff.2 cut⟩, ?_⟩
      · exact (found?_eq homeName).symm.trans spells.name
      · exact (found?_eq homeLength).symm.trans spells.length
      · exact (found?_eq homePieceLength).symm.trans spells.pieceLength
      · omega
      · omega
      · exact (found?_eq homePieces).symm.trans pieces
      · rw [expectedPieces_eq positive]
        exact spells.pieceCount.symm

/-- The octets that the naming digest is taken over are always there, so no check is made there. -/
theorem reports_parse (data : Bytes) : Reports data Check.order (parse data) := by
  rw [parse_eq]
  have decoded : Reports data [.decoding] ((decode data).mapError .malformed) := by
    cases whole : decode data with
    | error cause =>
      refine reports_singleton nofun fun e failed => ?_
      cases failed
      refine ⟨?_, cause, whole, rfl⟩
      rintro ⟨root, read⟩
      cases whole.symm.trans read
    | ok root => exact reports_singleton (fun _ _ => ⟨root, whole⟩) nofun
  refine decoded.bind fun root whole => ?_
  replace whole := mapError_eq_ok_iff.1 whole
  obtain ⟨homeAnnounce, homeInfo⟩ := home?_of_decode whole
  refine (reports_entryAs homeAnnounce fun v => ?_).bind fun announce _ => ?_
  · simp only [text?_eq_some_iff]
    exact Iff.rfl
  refine (reports_entry homeInfo).bind fun info found => ?_
  have under : found? data .info = some info :=
    (found?_eq homeInfo).trans (entry_eq_ok_iff.1 found)
  refine (reports_refuseIf (.kind .info .dictionary) ?_ rfl).bind fun _ _ => ?_
  · constructor
    · rintro ⟨v, under', entries, rfl⟩
      cases under.symm.trans under'
      exact nofun
    · intro dict
      cases info with
      | dict entries => exact ⟨_, under, entries, rfl⟩
      | _ => exact absurd rfl dict
  obtain ⟨d, -, spelled, -⟩ := rawInfo_of_entry whole found
  have rest := (reports_contentOf under).bind (f := fun content =>
    rawInfo data >>= fun raw => pure (⟨announce, sha1 raw, content⟩ : Descriptor))
    fun content _ => by
      rw [spelled]
      exact reports_ok _
  rwa [List.append_nil] at rest

/-- Octets are read as a descriptor exactly if they spell it, and they spell one exactly if they
pass all checks. Otherwise the error says which check is the first that they fail, in the order of
the checks. The digests of a descriptor put together are what stands under `pieces`. -/
theorem parse_accepts (data : Bytes) :
    (∀ t, parse data = .ok t ↔ Spells data t) ∧
    ((∃ t, Spells data t) ↔ ∀ check ∈ Check.order, Passes data check) ∧
    (∀ e, parse data = .error e ↔ FirstFault data e Check.order) ∧
    ∀ t, Spells data t →
      found? data .pieces = some (.bytes (t.content.hashes.flatMap Subtype.val)) := by
  have reports := reports_parse data
  refine ⟨fun t => parse_eq_ok_iff_spells, ⟨?_, fun all => ?_⟩, fun e => ⟨reports.fault e, ?_⟩, ?_⟩
  · rintro ⟨t, spells⟩
    exact reports.passed t (parse_eq_ok_iff_spells.2 spells)
  · cases read : parse data with
    | ok t => exact ⟨t, parse_eq_ok_iff_spells.1 read⟩
    | error e => exact absurd all (reports.fault e read).not_passes
  · intro fault
    cases read : parse data with
    | ok t => exact absurd (reports.passed t read) fault.not_passes
    | error e' => rw [(reports.fault e' read).unique fault]
  · intro t spells
    obtain ⟨b, pieces, whole, each⟩ := spells.pieces
    rw [pieces, eq_digests whole each, (digests_spec whole).2.2]

end Descriptor

end Swarm
