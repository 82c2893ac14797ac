import Swarm.Proofs.Bencode.Entries
import Swarm.Proofs.Bencode.Reading

/-!
The octets that spell the value of a key. Looking for a key in the dictionary at the start of the
input fails exactly where reading the dictionary fails, and finds the span of the last field with
that key, which is decoded on its own to the value that the dictionary has for it
(`findRaw_agrees`).
-/

namespace Swarm.Bencode

open Cursor

theorem Within.succ {α : Type} {children : α → List α} {levels : Nat} {whole : α}
    (within : Within children levels whole) : Within children (levels + 1) whole :=
  fun depth part inside => Nat.lt_succ_of_lt (within depth part inside)

theorem find?_reverse_of_last {α : Type} {p : α → Bool} {before after : List α} {x : α}
    (found : p x = true) (last : ∀ y ∈ after, p y = false) :
    (before ++ x :: after).reverse.find? p = some x := by
  have none : after.reverse.find? p = none := by
    rw [List.find?_eq_none]
    intro y member
    rw [last y (List.mem_reverse.1 member)]
    exact Bool.false_ne_true
  rw [List.reverse_append, List.reverse_cons, List.append_assoc, List.find?_append, none,
    Option.none_or, List.singleton_append, List.find?_cons_of_pos found]

def topFields (after : Bytes) : Except DecodeError (List Field × Cursor) :=
  fields (value (after.length + 2) maxDepth) (after.length + 2) [] ⟨1, after⟩

variable {data after key : Bytes}

theorem next_of_dict : (start (100 :: after)).next = (topFields after).map fun r =>
    (.dict (Entries.ofList (r.1.map Field.entry)), r.2) := by
  rw [next, start, value]
  dsimp only
  rw [if_neg (by decide), if_neg (by decide), if_pos rfl]
  rfl

theorem findRaw_of_dict : findRaw (100 :: after) key = (topFields after).map fun r =>
    (r.1.reverse.find? fun f => f.key == key).map Field.raw :=
  rfl

theorem findRaw_of_not_dict (other : data.head? ≠ some 100) :
    findRaw data key = (start data).next.map fun _ => none := by
  unfold findRaw
  split
  · exact absurd rfl other
  · rfl

/-- Looking for a key fails where reading the value fails, and for the same reason. -/
theorem findRaw_eq_error_iff {e : DecodeError} :
    findRaw data key = .error e ↔ (start data).next = .error e := by
  by_cases dict : data.head? = some 100
  · obtain ⟨after, rfl⟩ := List.head?_eq_some_iff.1 dict
    rw [findRaw_of_dict, next_of_dict]
    cases topFields after <;> simp [Except.map]
  · rw [findRaw_of_not_dict dict]
    cases (start data).next <;> simp [Except.map]

theorem head?_of_get? {v value : Value} {behind : Cursor}
    (read : (start data).next = .ok (v, behind)) (found : v.get? key = some value) :
    data.head? = some 100 := by
  obtain ⟨d, -, -, spans, rfl⟩ := next_eq_ok_iff.1 read
  cases d with
  | dict fields =>
    have whole : data = (Derivation.dict fields).text ++ behind.rest := spans.rest
    rw [whole]
    rfl
  | list items =>
    rw [Derivation.value_list] at found
    cases found
  | _ => cases found

theorem find?_raw_eq (key : Bytes) {good : Derivation → Prop}
    {pairs : List (Field × (StringText × Derivation))}
    (all : ∀ p ∈ pairs, Field.Matches good p.1 p.2) :
    ((pairs.map Prod.fst).reverse.find? fun f => f.key == key).map Field.raw =
      ((pairs.map Prod.snd).reverse.find? fun d => d.1.octets == key).map fun d => d.2.text := by
  have same : pairs.map (fun p => (p.1.key, p.1.raw)) =
      pairs.map fun p => (p.2.1.octets, p.2.2.text) :=
    List.map_congr_left fun p member => Prod.ext (all p member).key (all p member).raw
  have found := congrArg (fun l => (l.reverse.find? fun e => e.1 == key).map Prod.snd) same
  simp only [← List.map_reverse, List.find?_map, Option.map_map] at found ⊢
  exact found

theorem exists_fields {v : Value} {behind : Cursor}
    (read : (start (100 :: after)).next = .ok (v, behind)) :
    ∃ ds : List (StringText × Derivation),
      (∀ d ∈ ds, d.2.Fits ∧ Within Derivation.children maxDepth d.2) ∧
      after = ds.flatMap Derivation.fieldText ++ 101 :: behind.rest ∧
      v = .dict (Entries.ofList (ds.map Derivation.entry)) ∧
      ∀ key, findRaw (100 :: after) key =
        .ok ((ds.reverse.find? fun d => d.1.octets == key).map fun d => d.2.text) := by
  rw [next_of_dict] at read
  cases run : topFields after with
  | error e =>
    rw [run] at read
    cases read
  | ok r =>
    rw [run] at read
    cases read
    obtain ⟨pairs, same, all, spans⟩ := (value_sound _ _).fields run
    refine ⟨pairs.map Prod.snd, List.forall_mem_map.2 fun p member => (all p member).good, ?_,
      by rw [same, map_entry_eq all], fun key => ?_⟩
    · rw [← List.singleton_append, ← List.append_assoc]
      exact spans.rest
    · have found := find?_raw_eq key all
      rw [← same] at found
      rw [findRaw_of_dict, run]
      exact congrArg Except.ok found

/-- What is found for a key that has an entry is where the value of its last field stands, and this
decodes to the entry. -/
theorem findRaw_of_get? {v : Value} {behind : Cursor} {value : Value}
    (read : (start data).next = .ok (v, behind)) (found : v.get? key = some value) :
    ∃ (before after : List (StringText × Derivation)) (k : StringText) (d : Derivation),
      data = 100 :: (before.flatMap Derivation.fieldText ++ (k.text ++ (d.text ++
        (after.flatMap Derivation.fieldText ++ 101 :: behind.rest)))) ∧
      v = (Derivation.dict (before ++ (k, d) :: after)).value ∧
      k.octets = key ∧ (∀ f ∈ after, f.1.octets ≠ key) ∧
      findRaw data key = .ok (some d.text) ∧ decode d.text = .ok value := by
  obtain ⟨rest, rfl⟩ := List.head?_eq_some_iff.1 (head?_of_get? read found)
  obtain ⟨ds, all, rfl, rfl, raws⟩ := exists_fields read
  obtain ⟨before', after', split, last⟩ := Entries.get?_ofList_eq_some found
  obtain ⟨before, tail, rfl, rfl, fromKey⟩ := List.map_eq_append_iff.1 split
  obtain ⟨⟨k, d⟩, after, rfl, entry, rfl⟩ := List.map_eq_cons_iff.1 fromKey
  cases entry
  have later : ∀ f ∈ after, f.1.octets ≠ k.octets := fun f member =>
    last _ (List.mem_map_of_mem member)
  obtain ⟨fits, within⟩ := all (k, d) (by simp)
  refine ⟨before, after, k, d, ?_, (Derivation.value_dict _).symm, rfl, later, ?_, ?_⟩
  · simp only [List.flatMap_append, List.flatMap_cons, Derivation.fieldText, List.append_assoc]
  · have lastOne : (before ++ (k, d) :: after).reverse.find? (fun f => f.1.octets == k.octets) =
        some (k, d) :=
      find?_reverse_of_last (beq_self_eq_true k.octets) fun f member =>
        beq_false_of_ne (later f member)
    rw [raws k.octets]
    exact congrArg (fun found => Except.ok (Option.map _ found)) lastOne
  · exact decode_eq_ok_iff.2 ⟨d, fits, within.succ, rfl, rfl⟩

/-- `d` is the value of the last field with the key in a dictionary that is all of the input. -/
def LastField (data key : Bytes) (d : Derivation) : Prop :=
  ∃ (before after : List (StringText × Derivation)) (k : StringText),
    data = (Derivation.dict (before ++ (k, d) :: after)).text ∧ k.octets = key ∧
      ∀ f ∈ after, f.1.octets ≠ key

theorem LastField.unique {data key : Bytes} {d d' : Derivation} (first : LastField data key d)
    (second : LastField data key d') : d = d' := by
  obtain ⟨before, after, k, rfl, rfl, later⟩ := first
  obtain ⟨before', after', k', same, named, later'⟩ := second
  have fields := Derivation.dict.inj (Derivation.eq_of_text_eq same)
  have last : (before ++ (k, d) :: after).reverse.find? (fun f => f.1.octets == k.octets) =
      some (k, d) :=
    find?_reverse_of_last (beq_self_eq_true k.octets) fun f member =>
      beq_false_of_ne (later f member)
  have last' : (before' ++ (k', d') :: after').reverse.find? (fun f => f.1.octets == k.octets) =
      some (k', d') :=
    find?_reverse_of_last (beq_iff_eq.2 named) fun f member => beq_false_of_ne (later' f member)
  rw [fields, last'] at last
  cases last
  rfl

theorem exists_next_of_decode {v : Value} (whole : decode data = .ok v) :
    ∃ behind, (start data).next = .ok (v, behind) ∧ behind.rest = [] := by
  obtain ⟨d, fits, within, rfl, same⟩ := decode_eq_ok_iff.1 whole
  have spans : (start d.text).Spans d.text ⟨d.text.length, []⟩ :=
    ⟨(List.append_nil _).symm, (Nat.zero_add _).symm⟩
  exact ⟨_, next_eq_ok_iff.2 ⟨d, fits, within, spans, same⟩, rfl⟩

theorem findRaw_of_decode {v value : Value} (whole : decode data = .ok v)
    (found : v.get? key = some value) :
    ∃ d, LastField data key d ∧ findRaw data key = .ok (some d.text) ∧ decode d.text = .ok value := by
  obtain ⟨behind, read, nothing⟩ := exists_next_of_decode whole
  obtain ⟨before, after, k, d, spelled, -, named, later, raw, decoded⟩ := findRaw_of_get? read found
  refine ⟨d, ⟨before, after, k, ?_, named, later⟩, raw, decoded⟩
  rw [spelled, nothing, Derivation.text_dict]
  simp only [List.flatMap_append, List.flatMap_cons, Derivation.fieldText, List.append_assoc]

/-- Looking for a key and reading agree on every input. They fail together and with one error. If
what is read has an entry for the key, then what is found is where the value of the last field with
that key stands in the input, and this decodes to the entry; otherwise nothing is found. -/
theorem findRaw_agrees (data key : Bytes) :
    (∀ e, findRaw data key = .error e ↔ (start data).next = .error e) ∧
    (∀ v behind value, (start data).next = .ok (v, behind) → v.get? key = some value →
      ∃ (before after : List (StringText × Derivation)) (k : StringText) (d : Derivation),
        data = 100 :: (before.flatMap Derivation.fieldText ++ (k.text ++ (d.text ++
          (after.flatMap Derivation.fieldText ++ 101 :: behind.rest)))) ∧
        v = (Derivation.dict (before ++ (k, d) :: after)).value ∧
        k.octets = key ∧ (∀ f ∈ after, f.1.octets ≠ key) ∧
        findRaw data key = .ok (some d.text) ∧ decode d.text = .ok value) ∧
    (∀ v behind, (start data).next = .ok (v, behind) → v.get? key = none →
      findRaw data key = .ok none) := by
  refine ⟨fun e => findRaw_eq_error_iff, fun v behind value => findRaw_of_get?, ?_⟩
  intro v behind read absent
  by_cases dict : data.head? = some 100
  · obtain ⟨rest, rfl⟩ := List.head?_eq_some_iff.1 dict
    obtain ⟨ds, -, -, rfl, raws⟩ := exists_fields read
    have none : ds.reverse.find? (fun d => d.1.octets == key) = none := by
      rw [List.find?_eq_none]
      intro d member
      rw [beq_iff_eq]
      exact Entries.get?_ofList_eq_none_iff.1 absent _
        (List.mem_map_of_mem (List.mem_reverse.1 member))
    rw [raws, none]
    rfl
  · rw [findRaw_of_not_dict dict, read]
    rfl

theorem findRaw_agrees_sample :
    findRaw [100, 49, 58, 97, 48, 58, 49, 58, 97, 108, 101, 101, 0] [97] =
      .ok (some [108, 101]) ∧
    decode [108, 101] = .ok (.list []) := by
  have run : findRaw [100, 49, 58, 97, 48, 58, 49, 58, 97, 108, 101, 101, 0] [97] =
      .ok (some [108, 101]) := rfl
  obtain ⟨-, found, -⟩ :=
    findRaw_agrees [100, 49, 58, 97, 48, 58, 49, 58, 97, 108, 101, 101, 0] [97]
  obtain ⟨-, -, -, d, -, -, -, -, raw, whole⟩ :=
    found (.dict [([97], .list [])]) ⟨12, [0]⟩ (.list []) rfl rfl
  have spelled : d.text = [108, 101] := Option.some.inj (Except.ok.inj (raw.symm.trans run))
  exact ⟨run, spelled ▸ whole⟩

end Swarm.Bencode
