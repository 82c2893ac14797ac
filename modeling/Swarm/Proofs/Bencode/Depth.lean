import Mathlib.Algebra.Ring.Nat
import Swarm.Proofs.Bencode.RoundTrip

/-!
How deep lists and dictionaries may be nested. What is bounded is how many of them enclose a value,
so a text is refused if anything stands inside 65 lists and dictionaries (`nesting_limit`). The 65th
one itself is accepted while it is empty: 65 lists, one in the other, are decoded
(`nested_beyond_limit`), although the limit is 64.
-/

namespace Swarm.Bencode

/-! ### Heights of trees -/

section

variable {α : Type} {children : α → List α} {compound : α → Prop} {height : α → Nat} {whole : α}

theorem lt_foldr_max_iff {n : Nat} {l : List Nat} : n < l.foldr max 0 ↔ ∃ m ∈ l, n < m := by
  induction l with
  | nil => simp
  | cons m l ih =>
    have split : n < max m (l.foldr max 0) ↔ n < m ∨ n < l.foldr max 0 := by omega
    rw [List.foldr_cons, split, ih, List.exists_mem_cons_iff]

/-- Where the height of a node is one more than the greatest height of its children, it counts the
levels on which there are nodes. -/
theorem lt_height_iff (leaf : ∀ a, ¬ compound a → height a = 0 ∧ children a = [])
    (node : ∀ a, compound a → height a = ((children a).map height).foldr max 0 + 1) {n : Nat} :
    n < height whole ↔ ∃ part, Part children whole n part ∧ compound part := by
  induction n generalizing whole with
  | zero =>
    constructor
    · intro some
      by_contra none
      have flat : ¬ compound whole := fun here => none ⟨whole, .root whole, here⟩
      rw [(leaf whole flat).1] at some
      exact Nat.lt_irrefl 0 some
    · rintro ⟨part, inside, here⟩
      cases inside
      rw [node whole here]
      exact Nat.succ_pos _
  | succ n ih =>
    constructor
    · intro deep
      by_cases here : compound whole
      · rw [node whole here, Nat.succ_lt_succ_iff, lt_foldr_max_iff] at deep
        obtain ⟨_, member, deeper⟩ := deep
        obtain ⟨child, direct, rfl⟩ := List.mem_map.1 member
        obtain ⟨part, inside, there⟩ := ih.1 deeper
        exact ⟨part, .inner direct inside, there⟩
      · rw [(leaf whole here).1] at deep
        cases deep
    · rintro ⟨part, inside, there⟩
      cases inside with
      | inner direct inside =>
        have here : compound whole := by
          by_contra flat
          rw [(leaf whole flat).2] at direct
          cases direct
        rw [node whole here, Nat.succ_lt_succ_iff, lt_foldr_max_iff]
        exact ⟨_, List.mem_map_of_mem direct, ih.2 ⟨part, inside, there⟩⟩

theorem within_succ_iff_bottom {n : Nat} : Within children (n + 1) whole ↔
    ∀ part, Part children whole n part → children part = [] := by
  induction n generalizing whole with
  | zero =>
    rw [within_succ_iff]
    constructor
    · intro none part inside
      cases inside
      exact List.eq_nil_iff_forall_not_mem.2 fun child direct => not_within_zero (none child direct)
    · intro none child direct
      rw [none whole (.root whole)] at direct
      cases direct
  | succ n ih =>
    rw [within_succ_iff]
    constructor
    · intro below part inside
      cases inside with
      | inner direct inside => exact ih.1 (below _ direct) part inside
    · intro bottom child direct
      exact ih.2 fun part inside => bottom part (.inner direct inside)

end

/-! ### Nesting -/

namespace Value

mutual

/-- How many lists and dictionaries are nested in one another in a value: none in an integer or a
string, and in a list or a dictionary one more than in any of its items. -/
def nesting : Value → Nat
  | integer _ => 0
  | bytes _ => 0
  | list items => itemsNesting items + 1
  | dict entries => entriesNesting entries + 1

def itemsNesting : List Value → Nat
  | [] => 0
  | v :: rest => max v.nesting (itemsNesting rest)

def entriesNesting : List (Bytes × Value) → Nat
  | [] => 0
  | (_, v) :: rest => max v.nesting (entriesNesting rest)

end

def Compound : Value → Prop
  | list _ => True
  | dict _ => True
  | _ => False

theorem itemsNesting_eq (items : List Value) :
    itemsNesting items = (items.map nesting).foldr max 0 := by
  induction items with
  | nil => rfl
  | cons v rest ih => rw [itemsNesting, ih, List.map_cons, List.foldr_cons]

theorem entriesNesting_eq (entries : Entries) :
    entriesNesting entries = ((entries.map Prod.snd).map nesting).foldr max 0 := by
  induction entries with
  | nil => rfl
  | cons e rest ih => rw [entriesNesting, ih, List.map_cons, List.map_cons, List.foldr_cons]

theorem lt_nesting_iff {n : Nat} {v : Value} :
    n < v.nesting ↔ ∃ part, Part children v n part ∧ part.Compound := by
  refine lt_height_iff (fun v flat => ?_) fun v here => ?_
  · cases v with
    | list items => exact absurd trivial flat
    | dict entries => exact absurd trivial flat
    | _ => exact ⟨rfl, rfl⟩
  · cases v with
    | list items => exact congrArg (· + 1) (itemsNesting_eq items)
    | dict entries => exact congrArg (· + 1) (entriesNesting_eq entries)
    | _ => cases here

end Value

namespace Derivation

mutual

def nesting : Derivation → Nat
  | integer _ => 0
  | string _ => 0
  | list items => itemsNesting items + 1
  | dict fields => fieldsNesting fields + 1

def itemsNesting : List Derivation → Nat
  | [] => 0
  | d :: rest => max d.nesting (itemsNesting rest)

def fieldsNesting : List (StringText × Derivation) → Nat
  | [] => 0
  | (_, d) :: rest => max d.nesting (fieldsNesting rest)

end

def Compound : Derivation → Prop
  | list _ => True
  | dict _ => True
  | _ => False

theorem itemsNesting_eq (items : List Derivation) :
    itemsNesting items = (items.map nesting).foldr max 0 := by
  induction items with
  | nil => rfl
  | cons d rest ih => rw [itemsNesting, ih, List.map_cons, List.foldr_cons]

theorem fieldsNesting_eq (fields : List (StringText × Derivation)) :
    fieldsNesting fields = ((fields.map Prod.snd).map nesting).foldr max 0 := by
  induction fields with
  | nil => rfl
  | cons f rest ih => rw [fieldsNesting, ih, List.map_cons, List.map_cons, List.foldr_cons]

theorem children_of_not_compound {d : Derivation} (flat : ¬ d.Compound) : d.children = [] := by
  cases d with
  | list items => exact absurd trivial flat
  | dict fields => exact absurd trivial flat
  | _ => rfl

theorem lt_nesting_iff {n : Nat} {d : Derivation} :
    n < d.nesting ↔ ∃ part, Part children d n part ∧ part.Compound := by
  refine lt_height_iff (fun d flat => ⟨?_, children_of_not_compound flat⟩) fun d here => ?_
  · cases d with
    | list items => exact absurd trivial flat
    | dict fields => exact absurd trivial flat
    | _ => rfl
  · cases d with
    | list items => exact congrArg (· + 1) (itemsNesting_eq items)
    | dict fields => exact congrArg (· + 1) (fieldsNesting_eq fields)
    | _ => cases here

theorem nesting_derivation (v : Value) : v.derivation.nesting = v.nesting := by
  induction v with
  | integer n => rfl
  | bytes b => rfl
  | list items ih =>
    rw [Value.derivation_list, nesting, Value.nesting, itemsNesting_eq, Value.itemsNesting_eq,
      List.map_map]
    exact congrArg (fun l => List.foldr max 0 l + 1) (List.map_congr_left ih)
  | dict entries ih =>
    rw [Value.derivation_dict, nesting, Value.nesting, fieldsNesting_eq, Value.entriesNesting_eq]
    simp only [List.map_map]
    exact congrArg (fun l => List.foldr max 0 l + 1) (List.map_congr_left ih)

theorem within_of_nesting_le {n : Nat} {d : Derivation} (flat : d.nesting ≤ n) :
    Within children (n + 1) d := by
  refine within_succ_iff_bottom.2 fun part inside => children_of_not_compound fun here => ?_
  exact Nat.not_lt.2 flat (lt_nesting_iff.2 ⟨part, inside, here⟩)

theorem not_within_of_lt_nesting {n : Nat} {d : Derivation} (deep : n < d.nesting) :
    ¬ Within children n d := by
  obtain ⟨part, inside, -⟩ := lt_nesting_iff.1 deep
  exact fun within => Nat.lt_irrefl n (within n part inside)

end Derivation

theorem decode_of_within {d : Derivation} (fits : d.Fits)
    (within : Within Derivation.children (maxDepth + 1) d) : decode d.text = .ok d.value :=
  decode_eq_ok_iff.2 ⟨d, fits, within, rfl, rfl⟩

theorem decode_of_not_within {d : Derivation} (fits : d.Fits)
    (deep : ¬ Within Derivation.children (maxDepth + 1) d) :
    decode d.text = .error (.tooDeep maxDepth) := by
  have spans : (Cursor.start d.text).Spans d.text ⟨d.text.length, []⟩ :=
    ⟨(List.append_nil _).symm, (Nat.zero_add _).symm⟩
  rw [decode, Cursor.next_of_not_within fits deep spans]

/-! ### Lists in lists -/

theorem encode_iterate_list (n : Nat) : ((fun v => Value.list [v])^[n] (.list [])).encode =
    List.replicate (n + 1) 108 ++ List.replicate (n + 1) 101 := by
  induction n with
  | zero => rfl
  | succ n ih =>
    rw [Function.iterate_succ_apply', Value.encode, encodeItems, encodeItems, ih, List.append_nil,
      List.append_assoc, ← List.replicate_succ', ← List.cons_append, ← List.replicate_succ]

theorem nesting_iterate_list (n : Nat) :
    ((fun v => Value.list [v])^[n] (.list [])).nesting = n + 1 := by
  induction n with
  | zero => rfl
  | succ n ih =>
    rw [Function.iterate_succ_apply', Value.nesting, Value.itemsNesting, Value.itemsNesting, ih,
      Nat.max_zero]

theorem within_iterate_list (n : Nat) :
    Within Value.children (n + 1) ((fun v => Value.list [v])^[n] (.list [])) := by
  induction n with
  | zero => exact within_of_children_eq_nil rfl
  | succ n ih =>
    rw [Function.iterate_succ_apply', within_succ_iff]
    exact List.forall_mem_singleton.2 ih

/-! ### The limit -/

/-- A text of the grammar is refused as nested too deep exactly if something in it is enclosed by
more than 64 lists and dictionaries, and is decoded otherwise. So what is decoded has up to 65 lists
and dictionaries nested in one another, of which the innermost is then empty; a text with up to 64
is decoded, and one with more than 65 is refused. -/
theorem nesting_limit {data : Bytes} (small : data.length < 2 ^ 63) :
    (∀ v, decode data = .ok v → v.nesting ≤ maxDepth + 1 ∧
      ∀ part, Part Value.children v maxDepth part → part.children = []) ∧
    ∀ d : Derivation, d.text = data →
      (decode data = .ok d.value ↔
        ∀ part, Part Derivation.children d maxDepth part → part.children = []) ∧
      (decode data = .error (.tooDeep maxDepth) ↔
        ∃ part, Part Derivation.children d maxDepth part ∧ part.children ≠ []) ∧
      (d.nesting ≤ maxDepth → decode data = .ok d.value) ∧
      (maxDepth + 1 < d.nesting → decode data = .error (.tooDeep maxDepth)) := by
  constructor
  · intro v read
    obtain ⟨d, -, within, -, rfl⟩ := decode_eq_ok_iff.1 read
    have within := Derivation.within_value within
    refine ⟨Nat.not_lt.1 fun deep => ?_, within_succ_iff_bottom.1 within⟩
    obtain ⟨part, inside, -⟩ := Value.lt_nesting_iff.1 deep
    exact Nat.lt_irrefl _ (within _ part inside)
  · rintro d rfl
    have word : (2 : Nat) ^ 63 < UInt64.size := by decide
    have fits := Derivation.fits_of_length_lt (Nat.lt_trans small word)
    have shallow := decode_of_within fits
    have deep := decode_of_not_within fits
    refine ⟨?_, ?_, fun flat => shallow (Derivation.within_of_nesting_le flat),
      fun many => deep fun within => Derivation.not_within_of_lt_nesting many within⟩
    · rw [← within_succ_iff_bottom]
      refine ⟨fun read => ?_, shallow⟩
      by_contra beyond
      cases read.symm.trans (deep beyond)
    · have some : (∃ part, Part Derivation.children d maxDepth part ∧ part.children ≠ []) ↔
          ¬ Within Derivation.children (maxDepth + 1) d := by
        rw [within_succ_iff_bottom]
        push Not
        rfl
      rw [some]
      refine ⟨fun failed within => ?_, deep⟩
      cases failed.symm.trans (shallow within)

theorem nesting_limit_sample :
    decode (List.replicate 66 108 ++ List.replicate 66 101) = .error (.tooDeep 64) ∧
    decode (List.replicate 64 108 ++ List.replicate 64 101) =
      .ok ((fun v => Value.list [v])^[63] (.list [])) := by
  have small (n : Nat) (few : n ≤ 66) :
      (List.replicate n (108 : UInt8) ++ List.replicate n 101).length < 2 ^ 63 := by
    rw [List.length_append, List.length_replicate, List.length_replicate]
    omega
  have text (n : Nat) := (Value.text_derivation _).trans (encode_iterate_list n)
  have nested (n : Nat) := (Derivation.nesting_derivation _).trans (nesting_iterate_list n)
  obtain ⟨-, -, -, deep⟩ := (nesting_limit (small 66 (by decide))).2 _ (text 65)
  obtain ⟨-, -, shallow, -⟩ := (nesting_limit (small 64 (by decide))).2 _ (text 63)
  refine ⟨deep ?_, ?_⟩
  · rw [nested]
    decide
  · rw [← Value.value_derivation (wellFormed_iterate_list 63)]
    refine shallow ?_
    rw [nested]
    decide

/-- 65 lists, one in the other, are decoded, although no more than 64 may be nested. -/
theorem nested_beyond_limit :
    decode (List.replicate 65 108 ++ List.replicate 65 101) =
      .ok ((fun v => Value.list [v])^[64] (.list [])) ∧
    ((fun v => Value.list [v])^[64] (.list [])).nesting = 65 ∧ maxDepth < 65 := by
  refine ⟨?_, nesting_iterate_list 64, by decide⟩
  rw [← encode_iterate_list 64]
  exact (Value.decode_encode_iff (wellFormed_iterate_list 64)).2 (within_iterate_list 64)

end Swarm.Bencode
