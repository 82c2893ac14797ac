import Mathlib.Data.List.Induction
import Mathlib.Data.List.Perm.Subperm
import Swarm.Bencode.Value

/-!
Dictionaries as they are built by insertion. The entries of a sequence of fields have ascending
keys, each key has the value of its last field, and they are some of the fields; fields whose keys
ascend already are the entries that they make. What stands under a key can be read as octets, as text
or as a number only if it is one.
-/

namespace Swarm

theorem Bytes.text?_eq_some_iff {b : Bytes} {s : String} : text? b = some s ↔ b = ofText s := by
  unfold text? String.fromUTF8? ofText
  constructor
  · intro read
    split at read
    next => cases read; rfl
    next => cases read
  · rintro rfl
    exact dif_pos s.isValidUTF8

theorem Bytes.fixed?_eq_some_iff {n : Nat} {b : Bytes} {f : Fixed n} :
    fixed? n b = some f ↔ b = f.1 := by
  rw [fixed?]
  split
  next full => simp only [Option.some.injEq, Subtype.ext_iff]
  next short => exact iff_of_false nofun fun same => short (same ▸ f.2)

namespace Bencode

theorem key_lt_of_not_lt {a b : Bytes} (behind : ¬ a < b) (different : a ≠ b) : b < a :=
  Decidable.byContradiction fun other =>
    different (List.le_antisymm (List.not_lt.1 other) (List.not_lt.1 behind))

def Ascending (keys : List Bytes) : Prop := keys.Pairwise (· < ·)

instance (keys : List Bytes) : Decidable (Ascending keys) :=
  inferInstanceAs (Decidable (keys.Pairwise (· < ·)))

namespace Entries

variable {key k : Bytes} {value v : Value} {entries fields : Entries}

theorem mem_keys_insert (member : k ∈ (insert key value entries).map Prod.fst) :
    k = key ∨ k ∈ entries.map Prod.fst := by
  induction entries with
  | nil => exact .inl (List.mem_singleton.1 member)
  | cons e rest ih =>
    obtain ⟨k', v'⟩ := e
    rw [insert] at member
    split at member
    next => exact List.mem_cons.1 member
    next =>
      split at member
      next => exact (List.mem_cons.1 member).imp_right (List.mem_cons_of_mem _)
      next =>
        rcases List.mem_cons.1 member with rfl | member
        · exact .inr List.mem_cons_self
        · exact (ih member).imp_right (List.mem_cons_of_mem _)

theorem ascending_insert (ascending : Ascending (entries.map Prod.fst)) :
    Ascending ((insert key value entries).map Prod.fst) := by
  induction entries with
  | nil => exact List.pairwise_singleton _ key
  | cons e rest ih =>
    obtain ⟨k', v'⟩ := e
    obtain ⟨first, later⟩ := List.pairwise_cons.1 ascending
    rw [insert]
    split
    next before =>
      refine List.pairwise_cons.2 ⟨fun k member => ?_, ascending⟩
      rcases List.mem_cons.1 member with rfl | member
      · exact before
      · exact List.lt_trans before (first k member)
    next behind =>
      split
      next same => exact same ▸ ascending
      next different =>
        refine List.pairwise_cons.2 ⟨fun k member => ?_, ih later⟩
        rcases mem_keys_insert member with rfl | member
        · exact key_lt_of_not_lt behind different
        · exact first k member

theorem insert_of_forall_lt (last : ∀ k ∈ entries.map Prod.fst, k < key) :
    insert key value entries = entries ++ [(key, value)] := by
  induction entries with
  | nil => rfl
  | cons e rest ih =>
    obtain ⟨k', v'⟩ := e
    have before : k' < key := last k' List.mem_cons_self
    have notBehind : ¬ key < k' := fun behind => List.lt_irrefl k' (List.lt_trans before behind)
    have different : key ≠ k' := fun same => List.lt_irrefl k' (same ▸ before)
    rw [insert, if_neg notBehind, if_neg different,
      ih fun k member => last k (List.mem_cons_of_mem _ member), List.cons_append]

theorem insert_subperm : (insert key value entries).Subperm ((key, value) :: entries) := by
  induction entries with
  | nil => exact List.Subperm.refl _
  | cons e rest ih =>
    obtain ⟨k', v'⟩ := e
    rw [insert]
    split
    next => exact List.Subperm.refl _
    next =>
      split
      next => exact ((List.sublist_cons_self _ _).cons_cons _).subperm
      next => exact ((List.subperm_cons (k', v')).2 ih).trans (List.Perm.swap _ _ _).subperm

theorem get?_cons : get? ((key, value) :: entries) k =
    if k = key then some value else entries.get? k := by
  rw [get?, List.lookup_cons]
  by_cases same : k = key
  · rw [if_pos same, same, beq_self_eq_true]
  · rw [if_neg same, beq_false_of_ne same]
    rfl

theorem get?_insert : (insert key value entries).get? k =
    if k = key then some value else entries.get? k := by
  induction entries with
  | nil => exact get?_cons
  | cons e rest ih =>
    obtain ⟨k', v'⟩ := e
    rw [insert]
    split
    next => exact get?_cons
    next =>
      split
      next equal =>
        rw [get?_cons, get?_cons, equal]
        split <;> rfl
      next different =>
        rw [get?_cons, get?_cons, ih]
        by_cases same : k = key
        · rw [if_pos same, if_pos same, if_neg (same ▸ different)]
        · rw [if_neg same, if_neg same]

theorem get?_eq_some_iff (ascending : Ascending (entries.map Prod.fst)) :
    entries.get? key = some value ↔ (key, value) ∈ entries := by
  induction entries with
  | nil => simp [get?]
  | cons e rest ih =>
    obtain ⟨k', v'⟩ := e
    obtain ⟨first, later⟩ := List.pairwise_cons.1 ascending
    rw [get?_cons, List.mem_cons, Prod.mk.injEq]
    split
    next same =>
      have absent : (key, value) ∉ rest := fun member =>
        List.lt_irrefl k' (first k' (same ▸ List.mem_map_of_mem member))
      simp only [Option.some.injEq, same, true_and, same ▸ absent, or_false, eq_comm]
    next different => simp only [ih later, different, false_and, false_or]

/-! ### Sequences of fields -/

theorem ofList_concat (fields : Entries) (e : Bytes × Value) :
    ofList (fields ++ [e]) = (ofList fields).insert e.1 e.2 := by
  simp only [ofList, List.foldl_append, List.foldl_cons, List.foldl_nil]

theorem ascending_ofList (fields : Entries) : Ascending ((ofList fields).map Prod.fst) := by
  induction fields using List.reverseRecOn with
  | nil => exact List.Pairwise.nil
  | append_singleton fields e ih =>
    rw [ofList_concat]
    exact ascending_insert ih

theorem ofList_subperm (fields : Entries) : (ofList fields).Subperm fields := by
  induction fields using List.reverseRecOn with
  | nil => exact List.Subperm.refl _
  | append_singleton fields e ih =>
    rw [ofList_concat]
    have put : (insert e.1 e.2 (ofList fields)).Subperm (e :: fields) :=
      insert_subperm.trans ((List.subperm_cons e).2 ih)
    exact put.trans (List.perm_append_singleton e fields).symm.subperm

theorem ofList_eq_self (ascending : Ascending (fields.map Prod.fst)) : ofList fields = fields := by
  induction fields using List.reverseRecOn with
  | nil => rfl
  | append_singleton fields e ih =>
    rw [List.map_append] at ascending
    obtain ⟨front, -, last⟩ := List.pairwise_append.1 ascending
    rw [ofList_concat, ih front,
      insert_of_forall_lt fun k member => last k member e.1 List.mem_cons_self]

theorem get?_ofList_eq_none_iff :
    (ofList fields).get? key = none ↔ ∀ e ∈ fields, e.1 ≠ key := by
  induction fields using List.reverseRecOn with
  | nil => simp [ofList, get?]
  | append_singleton fields e ih =>
    rw [ofList_concat, get?_insert]
    by_cases same : key = e.1
    · rw [if_pos same]
      exact iff_of_false (by simp) fun absent =>
        absent e (List.mem_append_right _ List.mem_cons_self) same.symm
    · rw [if_neg same, ih]
      simp only [List.forall_mem_append, List.forall_mem_singleton, Ne.symm same, ne_eq,
        not_false_eq_true, and_true]

theorem get?_ofList_eq_some (found : (ofList fields).get? key = some value) :
    ∃ before after, fields = before ++ (key, value) :: after ∧ ∀ e ∈ after, e.1 ≠ key := by
  induction fields using List.reverseRecOn with
  | nil => cases found
  | append_singleton fields e ih =>
    rw [ofList_concat, get?_insert] at found
    split at found
    next same =>
      cases found
      exact ⟨fields, [], by rw [same], fun e member => by cases member⟩
    next different =>
      obtain ⟨before, after, rfl, later⟩ := ih found
      refine ⟨before, after ++ [e], by simp, fun e' member => ?_⟩
      rcases List.mem_append.1 member with member | member
      · exact later e' member
      · exact List.mem_singleton.1 member ▸ Ne.symm different

end Entries

/-! ### Values of one kind -/

namespace Value

variable {v : Value}

theorem text?_eq_some_iff {s : String} : v.text? = some s ↔ v = .bytes (Bytes.ofText s) := by
  cases v <;> simp [Value.text?, Value.bytes?, Bytes.text?_eq_some_iff]

theorem bytes?_eq_some_iff {b : Bytes} : v.bytes? = some b ↔ v = .bytes b := by
  cases v <;> simp [Value.bytes?]

theorem word64?_eq_some_iff {n : Nat} : v.word64? = some n ↔ v = .integer n ∧ n < UInt64.size := by
  cases v with
  | integer m =>
    cases m with
    | ofNat m =>
      simp only [Value.word64?, Value.int?, Option.ite_none_right_eq_some, Option.some.injEq,
        Value.integer.injEq, Int.ofNat_eq_natCast, Int.natCast_inj]
      exact ⟨fun ⟨small, same⟩ => ⟨same, same ▸ small⟩, fun ⟨same, small⟩ => ⟨same ▸ small, same⟩⟩
    | negSucc m => simp [Value.word64?, Value.int?]
  | _ => simp [Value.word64?, Value.int?]

end Value

end Bencode

end Swarm
