import Swarm.Proofs.Bencode.Grammar

/-!
What the program can take of the grammar: strings with lengths that a 64-bit word tells, and no more
levels of lists and dictionaries than are allowed. `Derivation.read` says what is read from a
derivation for each number of levels, which is its value or one and the same error
(`Derivation.read_of_within`, `Derivation.read_of_not_within`).
-/

namespace Swarm.Bencode

namespace Derivation

def Told : Derivation → Prop
  | string s => s.octets.length < UInt64.size
  | dict fields => ∀ f ∈ fields, f.1.octets.length < UInt64.size
  | _ => True

def Fits (d : Derivation) : Prop := Throughout children Told d

theorem fits_list {items : List Derivation} : (list items).Fits ↔ ∀ d ∈ items, d.Fits :=
  throughout_iff.trans (and_iff_right trivial)

theorem fits_dict {fields : List (StringText × Derivation)} : (dict fields).Fits ↔
    ∀ f ∈ fields, f.1.octets.length < UInt64.size ∧ f.2.Fits := by
  rw [Fits, throughout_iff]
  simp only [Told, children, List.forall_mem_map, ← forall₂_and]
  rfl

theorem length_le_flatMap {α : Type} (text : α → Bytes) {xs : List α} {x : α} (member : x ∈ xs) :
    (text x).length ≤ (xs.flatMap text).length := by
  obtain ⟨before, after, rfl⟩ := List.append_of_mem member
  rw [List.flatMap_append, List.flatMap_cons, List.length_append, List.length_append]
  omega

theorem length_octets_le (s : StringText) : s.octets.length ≤ s.text.length := by
  rw [StringText.text, List.length_append, List.length_cons]
  omega

theorem fits_of_length_lt {d : Derivation} (small : d.text.length < UInt64.size) : d.Fits := by
  induction d with
  | integer n => exact throughout_of_children_eq_nil rfl trivial
  | string s =>
    exact throughout_of_children_eq_nil rfl (Nat.lt_of_le_of_lt (length_octets_le s) small)
  | list items ih =>
    rw [text_list, List.length_cons, List.length_append] at small
    refine fits_list.2 fun d member => ih d member ?_
    have part := length_le_flatMap text member
    omega
  | dict fields ih =>
    rw [text_dict, List.length_cons, List.length_append] at small
    refine fits_dict.2 fun f member => ?_
    have part := length_le_flatMap fieldText member
    rw [fieldText, List.length_append] at part
    have key := length_octets_le f.1
    exact ⟨by omega, ih f member (by omega)⟩

def entryWith (result : Derivation → Except DecodeError Value) (f : StringText × Derivation) :
    Except DecodeError (Bytes × Value) :=
  (result f.2).map fun v => (f.1.octets, v)

/-- What a derivation stands for when only so many levels are allowed. -/
def read : Nat → Derivation → Except DecodeError Value
  | 0, _ => .error (.tooDeep maxDepth)
  | _ + 1, integer n => .ok (.integer n.value)
  | _ + 1, string s => .ok (.bytes s.octets)
  | levels + 1, list items => (items.mapM (read levels)).map .list
  | levels + 1, dict fields =>
    (fields.mapM (entryWith (read levels))).map fun entries => .dict (Entries.ofList entries)

/-! ### Levels -/

theorem mapM_eq_ok {α β ε : Type} {f : α → Except ε β} {g : α → β} {xs : List α}
    (all : ∀ x ∈ xs, f x = .ok (g x)) : xs.mapM f = .ok (xs.map g) := by
  induction xs with
  | nil => rfl
  | cons x xs ih =>
    rw [List.mapM_cons, all x List.mem_cons_self,
      ih fun x member => all x (List.mem_cons_of_mem _ member)]
    rfl

theorem mapM_eq_error {α β ε : Type} {f : α → Except ε β} {e : ε} {xs : List α}
    (all : ∀ x ∈ xs, (∃ y, f x = .ok y) ∨ f x = .error e) (some : ∃ x ∈ xs, f x = .error e) :
    xs.mapM f = .error e := by
  induction xs with
  | nil => exact absurd some (by simp)
  | cons x xs ih =>
    rw [List.mapM_cons]
    rcases all x List.mem_cons_self with ⟨y, here⟩ | here
    · have later : ∃ x ∈ xs, f x = .error e := by
        obtain ⟨x', member, failed⟩ := some
        rcases List.mem_cons.1 member with rfl | member
        · cases here.symm.trans failed
        · exact ⟨x', member, failed⟩
      rw [here, ih (fun x member => all x (List.mem_cons_of_mem _ member)) later]
      rfl
    · rw [here]
      rfl

theorem read_of_within {levels : Nat} {d : Derivation} (within : Within children levels d) :
    d.read levels = .ok d.value := by
  induction levels generalizing d with
  | zero => exact absurd within not_within_zero
  | succ levels ih =>
    have below := within_succ_iff.1 within
    cases d with
    | integer n => rfl
    | string s => rfl
    | list items =>
      have each : ∀ d ∈ items, d.read levels = .ok d.value := fun d member => ih (below d member)
      rw [read, mapM_eq_ok each, value_list]
      rfl
    | dict fields =>
      have each : ∀ f ∈ fields, entryWith (Derivation.read levels) f = .ok (entry f) := by
        intro f member
        rw [entryWith, ih (below f.2 (List.mem_map_of_mem member))]
        rfl
      rw [read, mapM_eq_ok each, value_dict]
      rfl

theorem read_of_not_within {levels : Nat} {d : Derivation}
    (deep : ¬ Within children levels d) : d.read levels = .error (.tooDeep maxDepth) := by
  induction levels generalizing d with
  | zero => rfl
  | succ levels ih =>
    rw [within_succ_iff] at deep
    simp only [not_forall] at deep
    obtain ⟨child, direct, deep⟩ := deep
    have each : ∀ d : Derivation, (∃ v, d.read levels = .ok v) ∨
        d.read levels = .error (.tooDeep maxDepth) := by
      intro d
      by_cases within : Within children levels d
      · exact .inl ⟨_, read_of_within within⟩
      · exact .inr (ih within)
    cases d with
    | integer n => cases direct
    | string s => cases direct
    | list items =>
      have some : ∃ d ∈ items, d.read levels = .error (.tooDeep maxDepth) :=
        ⟨child, direct, ih deep⟩
      rw [read, mapM_eq_error (fun d _ => each d) some]
      rfl
    | dict fields =>
      obtain ⟨f, member, rfl⟩ := List.mem_map.1 direct
      have failed : entryWith (Derivation.read levels) f = .error (.tooDeep maxDepth) := by
        rw [entryWith, ih deep]
        rfl
      have cases : ∀ f ∈ fields, (∃ e, entryWith (Derivation.read levels) f = .ok e) ∨
          entryWith (Derivation.read levels) f = .error (.tooDeep maxDepth) := by
        intro f _
        unfold entryWith
        rcases each f.2 with ⟨v, here⟩ | here
        · exact .inl ⟨(f.1.octets, v), by rw [here]; rfl⟩
        · exact .inr (by rw [here]; rfl)
      rw [read, mapM_eq_error cases ⟨f, member, failed⟩]
      rfl

end Derivation

end Swarm.Bencode
