import Mathlib.Data.List.Flatten
import Swarm.Bencode.Encoding
import Swarm.Proofs.Bencode.Entries
import Swarm.Proofs.Bencode.Grammar

/-!
The derivation that a value is written by. It is the only derivation of the value in which the keys
of every dictionary ascend, so the values and the derivations with ascending keys correspond one to
one (`Value.value_derivation`, `Derivation.derivation_value`), and no text of the value is shorter
than the written form.
-/

namespace Swarm.Bencode

def IntegerText.ofInt (n : Int) : IntegerText :=
  ⟨Decimal.signedNumeral n, Decimal.isInteger_signedNumeral n⟩

def StringText.ofBytes (b : Bytes) : StringText :=
  ⟨Decimal.numeral b.length, b, Decimal.isNumeral_numeral _, Decimal.value_numeral _⟩

theorem IntegerText.value_ofInt (n : Int) : (ofInt n).value = n :=
  Decimal.signedValue_signedNumeral n

theorem IntegerText.ofInt_value (n : IntegerText) : ofInt n.value = n := by
  obtain ⟨octets, written⟩ := n
  have same : (ofInt (value ⟨octets, written⟩)).octets = octets :=
    written.signedNumeral_signedValue
  simp only [ofInt] at same ⊢
  congr

theorem StringText.ofBytes_octets (s : StringText) : ofBytes s.octets = s := by
  obtain ⟨length, octets, written, counted⟩ := s
  have same : Decimal.numeral octets.length = length := by rw [← counted, written.numeral_value]
  simp only [ofBytes]
  congr

theorem StringText.text_ofBytes (b : Bytes) : (ofBytes b).text = encodeBytes b := rfl

theorem encodeItems_eq (items : List Value) : encodeItems items = items.flatMap Value.encode := by
  induction items with
  | nil => rfl
  | cons v rest ih => rw [encodeItems, ih, List.flatMap_cons]

theorem encodeEntries_eq (entries : Entries) :
    encodeEntries entries = entries.flatMap fun e => encodeBytes e.1 ++ e.2.encode := by
  induction entries with
  | nil => rfl
  | cons e rest ih => rw [encodeEntries, ih, List.flatMap_cons, List.append_assoc]

namespace Value

/-- What a value has right here is as the program keeps it: a dictionary has ascending keys, and
strings have lengths that a 64-bit word tells. -/
def Kept : Value → Prop
  | bytes b => b.length < UInt64.size
  | dict entries => Ascending (entries.map Prod.fst) ∧ ∀ e ∈ entries, e.1.length < UInt64.size
  | _ => True

/-- A value as the program keeps it: dictionaries are sorted maps, and strings have lengths that a
64-bit word tells. -/
def WellFormed (v : Value) : Prop := Throughout children Kept v

theorem wellFormed_list {items : List Value} :
    (list items).WellFormed ↔ ∀ v ∈ items, v.WellFormed :=
  throughout_iff.trans (and_iff_right trivial)

theorem wellFormed_dict {entries : Entries} : (dict entries).WellFormed ↔
    Ascending (entries.map Prod.fst) ∧
      ∀ e ∈ entries, e.1.length < UInt64.size ∧ e.2.WellFormed := by
  rw [WellFormed, throughout_iff]
  simp only [Kept, children, List.forall_mem_map, forall₂_and, and_assoc]
  rfl

mutual

def derivation : Value → Derivation
  | integer n => .integer (.ofInt n)
  | bytes b => .string (.ofBytes b)
  | list items => .list (itemDerivations items)
  | dict entries => .dict (entryDerivations entries)

def itemDerivations : List Value → List Derivation
  | [] => []
  | v :: rest => v.derivation :: itemDerivations rest

def entryDerivations : List (Bytes × Value) → List (StringText × Derivation)
  | [] => []
  | (key, v) :: rest => (.ofBytes key, v.derivation) :: entryDerivations rest

end

def field (e : Bytes × Value) : StringText × Derivation := (.ofBytes e.1, e.2.derivation)

theorem derivation_list (items : List Value) :
    (list items).derivation = .list (items.map derivation) := by
  have all : itemDerivations items = items.map derivation := by
    induction items with
    | nil => rfl
    | cons v rest ih => rw [itemDerivations, ih, List.map_cons]
  rw [derivation, all]

theorem derivation_dict (entries : Entries) :
    (dict entries).derivation = .dict (entries.map field) := by
  have all : entryDerivations entries = entries.map field := by
    induction entries with
    | nil => rfl
    | cons e rest ih => rw [entryDerivations, ih, List.map_cons, field]
  rw [derivation, all]

theorem text_derivation (v : Value) : v.derivation.text = v.encode := by
  induction v with
  | integer n => rfl
  | bytes b => rfl
  | list items ih =>
    rw [derivation_list, Derivation.text_list, encode, encodeItems_eq, List.flatMap_map,
      List.flatMap_congr ih]
  | dict entries ih =>
    have each : ∀ e ∈ entries, Derivation.fieldText (field e) = encodeBytes e.1 ++ e.2.encode := by
      intro e member
      rw [Derivation.fieldText, field, ih e member, StringText.text_ofBytes]
    rw [derivation_dict, Derivation.text_dict, encode, encodeEntries_eq, List.flatMap_map,
      List.flatMap_congr each]

theorem value_derivation {v : Value} (wf : v.WellFormed) : v.derivation.value = v := by
  induction v with
  | integer n => exact congrArg integer (IntegerText.value_ofInt n)
  | bytes b => rfl
  | list items ih =>
    have each : ∀ v ∈ items, v.derivation.value = v := fun v member =>
      ih v member (wellFormed_list.1 wf v member)
    rw [derivation_list, Derivation.value_list, List.map_map]
    exact congrArg list ((List.map_congr_left each).trans (List.map_id items))
  | dict entries ih =>
    obtain ⟨ascending, below⟩ := wellFormed_dict.1 wf
    have each : ∀ e ∈ entries, Derivation.entry (field e) = e := fun e member =>
      Prod.ext rfl (ih e member (below e member).2)
    have same : (entries.map field).map Derivation.entry = entries := by
      rw [List.map_map]
      exact (List.map_congr_left each).trans (List.map_id entries)
    rw [derivation_dict, Derivation.value_dict, same, Entries.ofList_eq_self ascending]

theorem children_derivation (v : Value) :
    v.derivation.children = v.children.map derivation := by
  cases v with
  | integer n => rfl
  | bytes b => rfl
  | list items => rw [derivation_list]; rfl
  | dict entries =>
    rw [derivation_dict]
    simp only [Derivation.children, children, List.map_map]
    rfl

theorem within_derivation {levels : Nat} {v : Value} :
    Within Derivation.children levels v.derivation ↔ Within children levels v := by
  induction levels generalizing v with
  | zero => exact iff_of_false not_within_zero not_within_zero
  | succ levels ih =>
    simp only [within_succ_iff, children_derivation, List.forall_mem_map, ih]

end Value

namespace Derivation

def Sorted : Derivation → Prop
  | dict fields => Ascending (fields.map fun f => f.1.octets)
  | _ => True

def Canonical (d : Derivation) : Prop := Throughout children Sorted d

theorem canonical_iff {d : Derivation} : d.Canonical ↔
    ∀ depth fields, Part children d depth (.dict fields) →
      Ascending (fields.map fun f => f.1.octets) := by
  constructor
  · exact fun all depth fields inside => all depth (.dict fields) inside
  · intro all depth part inside
    cases part with
    | dict fields => exact all depth fields inside
    | _ => trivial

theorem canonical_derivation {v : Value} (wf : v.WellFormed) : v.derivation.Canonical := by
  induction v with
  | integer n => exact throughout_of_children_eq_nil rfl trivial
  | bytes b => exact throughout_of_children_eq_nil rfl trivial
  | list items ih =>
    rw [Value.derivation_list]
    refine throughout_iff.2 ⟨trivial, ?_⟩
    simp only [children, List.forall_mem_map]
    exact fun v member => ih v member (Value.wellFormed_list.1 wf v member)
  | dict entries ih =>
    obtain ⟨ascending, below⟩ := Value.wellFormed_dict.1 wf
    rw [Value.derivation_dict]
    refine throughout_iff.2 ⟨?_, ?_⟩
    · rw [Sorted, List.map_map]
      exact ascending
    · simp only [children, List.forall_mem_map]
      exact fun e member => ih e member (below e member).2

theorem derivation_value {d : Derivation} (canonical : d.Canonical) : d.value.derivation = d := by
  induction d with
  | integer n => exact congrArg integer n.ofInt_value
  | string s => exact congrArg string s.ofBytes_octets
  | list items ih =>
    have below := (throughout_iff.1 canonical).2
    have each : ∀ d ∈ items, d.value.derivation = d := fun d member => ih d member (below d member)
    rw [value_list, Value.derivation_list, List.map_map]
    exact congrArg list ((List.map_congr_left each).trans (List.map_id items))
  | dict fields ih =>
    obtain ⟨ascending, below⟩ := throughout_iff.1 canonical
    have each : ∀ f ∈ fields, Value.field (entry f) = f := fun f member =>
      Prod.ext f.1.ofBytes_octets (ih f member (below f.2 (List.mem_map_of_mem member)))
    have keys : Ascending ((fields.map entry).map Prod.fst) := by
      rw [List.map_map]
      exact ascending
    rw [value_dict, Entries.ofList_eq_self keys, Value.derivation_dict, List.map_map]
    exact congrArg dict ((List.map_congr_left each).trans (List.map_id fields))

/-- What a derivation stands for is written by its own text only if its keys ascend. -/
theorem encode_value_eq_text_iff {d : Derivation} (wf : d.value.WellFormed) :
    d.value.encode = d.text ↔ d.Canonical := by
  rw [← Value.text_derivation]
  constructor
  · intro same
    exact eq_of_text_eq same ▸ canonical_derivation wf
  · intro canonical
    rw [derivation_value canonical]

theorem exists_field_of_mem {fields : List (StringText × Derivation)} {e : Bytes × Value}
    (member : e ∈ Entries.ofList (fields.map entry)) : ∃ f ∈ fields, entry f = e :=
  List.mem_map.1 ((Entries.ofList_subperm _).subset member)

theorem within_value {levels : Nat} {d : Derivation} (within : Within children levels d) :
    Within Value.children levels d.value := by
  induction levels generalizing d with
  | zero => exact absurd within not_within_zero
  | succ levels ih =>
    have below := within_succ_iff.1 within
    refine within_succ_iff.2 fun v member => ?_
    cases d with
    | integer n => cases member
    | string s => cases member
    | list items =>
      rw [value_list] at member
      obtain ⟨d, direct, rfl⟩ := List.mem_map.1 member
      exact ih (below d direct)
    | dict fields =>
      rw [value_dict] at member
      obtain ⟨e, kept, rfl⟩ := List.mem_map.1 member
      obtain ⟨f, direct, rfl⟩ := exists_field_of_mem kept
      exact ih (below f.2 (List.mem_map_of_mem direct))

theorem length_flatMap_le {α : Type} {f g : α → Bytes} {xs : List α}
    (each : ∀ x ∈ xs, (f x).length ≤ (g x).length) :
    (xs.flatMap f).length ≤ (xs.flatMap g).length := by
  induction xs with
  | nil => exact Nat.le_refl _
  | cons x xs ih =>
    rw [List.flatMap_cons, List.flatMap_cons, List.length_append, List.length_append]
    exact Nat.add_le_add (each x List.mem_cons_self)
      (ih fun x member => each x (List.mem_cons_of_mem _ member))

theorem length_encodeEntries_ofList_le (fields : Entries) :
    (encodeEntries (Entries.ofList fields)).length ≤ (encodeEntries fields).length := by
  obtain ⟨kept, same, some⟩ := Entries.ofList_subperm fields
  rw [encodeEntries_eq, encodeEntries_eq, ← (same.flatMap_right _).length_eq]
  exact (some.flatMap _).length_le

theorem length_encode_value_le (d : Derivation) : d.value.encode.length ≤ d.text.length := by
  induction d with
  | integer n =>
    have same : (integer n).value.derivation = integer n := congrArg integer n.ofInt_value
    rw [← Value.text_derivation]
    exact Nat.le_of_eq (congrArg (fun d => d.text.length) same)
  | string s =>
    have same : (string s).value.derivation = string s := congrArg string s.ofBytes_octets
    rw [← Value.text_derivation]
    exact Nat.le_of_eq (congrArg (fun d => d.text.length) same)
  | list items ih =>
    have shorter := length_flatMap_le ih
    rw [value_list, Value.encode, encodeItems_eq, text_list, List.flatMap_map]
    simp only [List.length_cons, List.length_append]
    omega
  | dict fields ih =>
    have each : ∀ f ∈ fields, (encodeBytes (entry f).1 ++ (entry f).2.encode).length ≤
        (fieldText f).length := by
      intro f member
      rw [entry, fieldText, ← StringText.text_ofBytes, StringText.ofBytes_octets,
        List.length_append, List.length_append]
      exact Nat.add_le_add_left (ih f member) _
    have fewer := length_encodeEntries_ofList_le (fields.map entry)
    have shorter := length_flatMap_le each
    rw [encodeEntries_eq (fields.map entry), List.flatMap_map] at fewer
    rw [value_dict, Value.encode, text_dict]
    simp only [List.length_cons, List.length_append]
    omega

end Derivation

end Swarm.Bencode
