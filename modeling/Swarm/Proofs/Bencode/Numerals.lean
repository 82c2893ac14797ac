import Mathlib.Data.List.Basic
import Mathlib.Data.List.Induction
import Mathlib.Tactic.SplitIfs
import Swarm.Bencode.Decoding

/-!
Numbers as they are written: a numeral has no superfluous zero in front, and an integer is a numeral
or a minus sign with a numeral other than `0` behind it. Every number has exactly one such text,
the one that the writer gives, and these texts are what the readers take.
-/

namespace Swarm

namespace Decimal

inductive IsPositive : Bytes → Prop where
  | intro {lead : UInt8} {rest : Bytes} (nonzero : 49 ≤ lead ∧ lead ≤ 57)
      (digits : ∀ b ∈ rest, isDigit b = true) : IsPositive (lead :: rest)

inductive IsNumeral : Bytes → Prop where
  | zero : IsNumeral [48]
  | positive {b : Bytes} (positive : IsPositive b) : IsNumeral b

/-- An integer without superfluous zeros, a minus sign in front of a negative one. -/
inductive IsInteger : Bytes → Prop where
  | zero : IsInteger [48]
  | positive {b : Bytes} (positive : IsPositive b) : IsInteger b
  | negative {b : Bytes} (positive : IsPositive b) : IsInteger (45 :: b)

def signedValue : Bytes → Int
  | 45 :: magnitude => -(value magnitude : Int)
  | digits => (value digits : Int)

theorem isDigit_iff {b : UInt8} : isDigit b = true ↔ 48 ≤ b.toNat ∧ b.toNat ≤ 57 := by
  simp only [isDigit, Bool.and_eq_true, decide_eq_true_eq, UInt8.le_iff_toNat_le]
  rfl

theorem nonzero_iff {b : UInt8} : (49 ≤ b ∧ b ≤ 57) ↔ isDigit b = true ∧ b ≠ 48 := by
  have zero : b = 48 ↔ b.toNat = 48 := UInt8.toNat_inj.symm
  have bounds : (49 ≤ b ∧ b ≤ 57) ↔ 49 ≤ b.toNat ∧ b.toNat ≤ 57 := by
    simp only [UInt8.le_iff_toNat_le]
    rfl
  rw [isDigit_iff, bounds, Ne, zero]
  omega

theorem IsPositive.isDigit {b : Bytes} (positive : IsPositive b) : ∀ x ∈ b, isDigit x = true := by
  obtain ⟨nonzero, digits⟩ := positive
  intro x member
  rcases List.mem_cons.1 member with rfl | member
  · exact (nonzero_iff.1 nonzero).1
  · exact digits x member

theorem IsNumeral.isDigit {b : Bytes} (numeral : IsNumeral b) : ∀ x ∈ b, isDigit x = true := by
  cases numeral with
  | zero => exact List.forall_mem_singleton.2 rfl
  | positive positive => exact positive.isDigit

theorem isPositive_iff {b : Bytes} :
    IsPositive b ↔ b ≠ [] ∧ (∀ x ∈ b, isDigit x = true) ∧ b.head? ≠ some 48 := by
  constructor
  · intro positive
    have digits := positive.isDigit
    obtain ⟨nonzero, -⟩ := positive
    exact ⟨List.cons_ne_nil _ _, digits, fun zero =>
      (nonzero_iff.1 nonzero).2 (Option.some.inj zero)⟩
  · rintro ⟨filled, digits, nonzero⟩
    obtain ⟨lead, rest, rfl⟩ := List.exists_cons_of_ne_nil filled
    have first := digits lead List.mem_cons_self
    exact ⟨nonzero_iff.2 ⟨first, fun zero => nonzero (congrArg some zero)⟩,
      fun x member => digits x (List.mem_cons_of_mem lead member)⟩

theorem isNumeral_iff {b : Bytes} : IsNumeral b ↔
    b ≠ [] ∧ (∀ x ∈ b, isDigit x = true) ∧ (b.head? = some 48 → b.length ≤ 1) := by
  constructor
  · intro numeral
    refine ⟨?_, numeral.isDigit, ?_⟩
    · rintro rfl
      cases numeral with
      | positive positive => cases positive
    · intro zero
      cases numeral with
      | zero => exact Nat.le_refl 1
      | positive positive => exact absurd zero (isPositive_iff.1 positive).2.2
  · rintro ⟨filled, digits, short⟩
    by_cases zero : b.head? = some 48
    · obtain ⟨lead, rest, rfl⟩ := List.exists_cons_of_ne_nil filled
      cases Option.some.inj zero
      cases List.eq_nil_of_length_eq_zero (Nat.le_zero.1 (Nat.le_of_succ_le_succ (short zero)))
      exact .zero
    · exact .positive (isPositive_iff.2 ⟨filled, digits, zero⟩)

/-! ### One text for each number -/

theorem value_singleton (b : UInt8) : value [b] = b.toNat - 48 := by
  simp only [value, List.foldl_cons, List.foldl_nil, Nat.mul_zero, Nat.zero_add]

theorem digit_of_isDigit {b : UInt8} (digits : isDigit b = true) : digit (b.toNat - 48) = b := by
  have bounds := isDigit_iff.1 digits
  apply UInt8.toNat_inj.1
  rw [toNat_digit (by omega)]
  omega

theorem isPositive_numeral {n : Nat} (positive : 0 < n) : IsPositive (numeral n) := by
  induction n using Nat.strongRecOn with
  | _ n ih =>
    by_cases small : n < 10
    · rw [numeral_of_lt small]
      refine ⟨nonzero_iff.2 ⟨isDigit_digit small, fun zero => ?_⟩, fun x member => by cases member⟩
      have exact := congrArg UInt8.toNat zero
      rw [toNat_digit small] at exact
      have forty : (48 : UInt8).toNat = 48 := rfl
      omega
    · have large : 10 ≤ n := Nat.le_of_not_lt small
      have all := fun x => isDigit_of_mem_numeral (n := n) (b := x)
      rw [numeral_of_le large] at all ⊢
      obtain ⟨filled, -, nonzero⟩ := isPositive_iff.1 (ih (n / 10) (by omega) (by omega))
      refine isPositive_iff.2 ⟨by simp, all, ?_⟩
      rwa [List.head?_append_of_ne_nil _ filled]

theorem isNumeral_numeral (n : Nat) : IsNumeral (numeral n) := by
  by_cases zero : n = 0
  · rw [zero, numeral_of_lt (by decide)]
    exact .zero
  · exact .positive (isPositive_numeral (Nat.pos_of_ne_zero zero))

/-- A numeral of a positive number is the one that the writer gives. The induction takes the last
digit off, as the writer puts it on. -/
theorem IsPositive.value_spec {b : Bytes} (positive : IsPositive b) :
    0 < value b ∧ numeral (value b) = b := by
  induction b using List.reverseRecOn with
  | nil => cases positive
  | append_singleton front last ih =>
    obtain ⟨-, digits, nonzero⟩ := isPositive_iff.1 positive
    have lastDigit := digits last (by simp)
    have bounds := isDigit_iff.1 lastDigit
    by_cases empty : front = []
    · subst empty
      have other : last.toNat ≠ 48 := fun same =>
        nonzero (congrArg some (UInt8.toNat_inj.1 (same : last.toNat = (48 : UInt8).toNat)))
      rw [List.nil_append, value_singleton]
      refine ⟨by omega, ?_⟩
      rw [numeral_of_lt (by omega), digit_of_isDigit lastDigit]
    · rw [List.head?_append_of_ne_nil _ empty] at nonzero
      obtain ⟨some, same⟩ := ih (isPositive_iff.2 ⟨empty, fun x member =>
        digits x (List.mem_append_left _ member), nonzero⟩)
      rw [value_append]
      refine ⟨by omega, ?_⟩
      have quotient : (10 * value front + (last.toNat - 48)) / 10 = value front := by omega
      have remainder : (10 * value front + (last.toNat - 48)) % 10 = last.toNat - 48 := by omega
      rw [numeral_of_le (by omega), quotient, remainder, same, digit_of_isDigit lastDigit]

theorem IsNumeral.numeral_value {b : Bytes} (written : IsNumeral b) : numeral (value b) = b := by
  cases written with
  | zero => exact numeral_of_lt (by decide)
  | positive positive => exact positive.value_spec.2

theorem isInteger_signedNumeral (n : Int) : IsInteger (signedNumeral n) := by
  cases n with
  | ofNat n =>
    by_cases zero : n = 0
    · rw [zero, signedNumeral, numeral_of_lt (by decide)]
      exact .zero
    · exact .positive (isPositive_numeral (Nat.pos_of_ne_zero zero))
  | negSucc n => exact .negative (isPositive_numeral n.succ_pos)

theorem signedValue_of_head_ne {b : Bytes} (unsigned : b.head? ≠ some 45) :
    signedValue b = value b := by
  unfold signedValue
  split
  · exact absurd rfl unsigned
  · rfl

theorem IsNumeral.head?_ne_minus {b : Bytes} (written : IsNumeral b) : b.head? ≠ some 45 := by
  intro minus
  exact absurd (written.isDigit 45 (List.mem_of_mem_head? minus)) (by decide)

theorem signedValue_signedNumeral (n : Int) : signedValue (signedNumeral n) = n := by
  cases n with
  | ofNat n =>
    rw [signedNumeral, signedValue_of_head_ne (isNumeral_numeral n).head?_ne_minus, value_numeral]
    rfl
  | negSucc n =>
    rw [signedNumeral, signedValue, value_numeral]
    rfl

theorem IsNumeral.signedNumeral_signedValue {b : Bytes} (written : IsNumeral b) :
    signedNumeral (signedValue b) = b := by
  rw [signedValue_of_head_ne written.head?_ne_minus]
  exact written.numeral_value

theorem IsInteger.signedNumeral_signedValue {b : Bytes} (written : IsInteger b) :
    signedNumeral (signedValue b) = b := by
  cases written with
  | zero => exact IsNumeral.zero.signedNumeral_signedValue
  | positive positive => exact (IsNumeral.positive positive).signedNumeral_signedValue
  | @negative b positive =>
    obtain ⟨some, same⟩ := positive.value_spec
    obtain ⟨n, value⟩ := Nat.exists_eq_succ_of_ne_zero (Nat.ne_of_gt some)
    rw [value] at same
    rw [signedValue, value]
    exact congrArg (45 :: ·) same

end Decimal

/-! ### Texts that the readers take -/

namespace Bencode.Cursor

open Decimal

theorem lengthOf?_eq_some_iff {digits : Bytes} {n : Nat} :
    lengthOf? digits = some n ↔ IsNumeral digits ∧ Decimal.value digits = n ∧ n < UInt64.size := by
  rw [isNumeral_iff]
  unfold lengthOf?
  simp only [List.isEmpty_iff, List.all_eq_true]
  split_ifs with refused zero fits
  · refine iff_of_false (by simp) ?_
    rintro ⟨⟨filled, digits, -⟩, -⟩
    exact refused.elim filled fun other => other digits
  · refine iff_of_false (by simp) ?_
    rintro ⟨⟨-, -, short⟩, -⟩
    exact Nat.not_lt.2 (short zero.1) zero.2
  all_goals
    have legal : digits ≠ [] ∧ (∀ x ∈ digits, isDigit x = true) ∧
        (digits.head? = some 48 → digits.length ≤ 1) :=
      ⟨fun empty => refused (.inl empty), not_not.1 fun other => refused (.inr other),
        fun lead => Nat.not_lt.1 fun long => zero ⟨lead, long⟩⟩
  · rw [Option.some.injEq]
    constructor
    · rintro rfl
      exact ⟨legal, rfl, fits⟩
    · exact fun told => told.2.1
  · refine iff_of_false (by simp) ?_
    rintro ⟨-, rfl, small⟩
    exact fits small

theorem integerOf_eq_ok_iff {digits : Bytes} {n : Int} :
    integerOf digits = .ok n ↔ IsInteger digits ∧ signedValue digits = n := by
  unfold integerOf
  by_cases negative : digits.head? = some 45
  · obtain ⟨b, rfl⟩ : ∃ b, digits = 45 :: b := by
      cases digits with
      | nil => cases negative
      | cons lead b => exact ⟨b, congrArg (· :: b) (Option.some.inj negative)⟩
    have written : IsInteger (45 :: b) ↔ IsPositive b := by
      constructor
      · rintro (_ | positive | positive)
        · exact absurd (positive.isDigit 45 List.mem_cons_self) (by decide)
        · exact positive
      · exact .negative
    rw [written, isPositive_iff]
    simp only [negative, if_true, List.drop_succ_cons, List.drop_zero, List.isEmpty_iff,
      List.all_eq_true, or_true, and_true]
    split_ifs with empty all zero
    · exact iff_of_false (by simp) fun legal => legal.1.1 empty
    · exact iff_of_false (by simp) fun legal => legal.1.2.2 zero
    · rw [Except.ok.injEq]
      exact ⟨fun told => ⟨⟨empty, all, zero⟩, told⟩, fun told => told.2⟩
    · exact iff_of_false (by simp) fun legal => all legal.1.2.1
  · have written : IsInteger digits ↔ IsNumeral digits := by
      constructor
      · rintro (_ | positive | positive)
        · exact .zero
        · exact .positive positive
        · exact absurd rfl negative
      · rintro (_ | positive)
        · exact .zero
        · exact .positive positive
    rw [written, isNumeral_iff, signedValue_of_head_ne negative]
    simp only [negative, if_false, List.isEmpty_iff, List.all_eq_true, or_false]
    split_ifs with empty all zero
    · exact iff_of_false (by simp) fun legal => legal.1.1 empty
    · exact iff_of_false (by simp) fun legal => Nat.not_lt.2 (legal.1.2.2 zero.1) zero.2
    · rw [Except.ok.injEq]
      exact ⟨fun told => ⟨⟨empty, all, fun lead => Nat.not_lt.1 fun long => zero ⟨lead, long⟩⟩,
        told⟩, fun told => told.2⟩
    · exact iff_of_false (by simp) fun legal => all legal.1.2.1

end Bencode.Cursor

end Swarm
