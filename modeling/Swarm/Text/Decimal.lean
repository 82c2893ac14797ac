import Swarm.Bytes

/-!
Decimal numerals as octets.

`numeral` writes a natural number without superfluous zeros; `value` reads any run of digits.
Main statements: `value_numeral` (reading undoes writing), `isDigit_of_mem_numeral`.
-/

namespace Swarm.Decimal

def isDigit (b : UInt8) : Bool := 48 ≤ b && b ≤ 57

def digit (n : Nat) : UInt8 := UInt8.ofNat (48 + n)

def numeralTo (n : Nat) (tail : Bytes) : Bytes :=
  if small : n < 10 then digit n :: tail
  else numeralTo (n / 10) (digit (n % 10) :: tail)
termination_by n
decreasing_by omega

def numeral (n : Nat) : Bytes := numeralTo n []

def signedNumeral : Int → Bytes
  | .ofNat n => numeral n
  | .negSucc n => 45 :: numeral (n + 1)

/-- The number that a run of digits denotes, leading zeros allowed. -/
def value (digits : Bytes) : Nat :=
  digits.foldl (fun n b => 10 * n + (b.toNat - 48)) 0

theorem toNat_digit {n : Nat} (small : n < 10) : (digit n).toNat = 48 + n := by
  simp only [digit, UInt8.toNat_ofNat']
  omega

theorem isDigit_digit {n : Nat} (small : n < 10) : isDigit (digit n) = true := by
  have exact := toNat_digit small
  simp only [isDigit, Bool.and_eq_true, decide_eq_true_eq, UInt8.le_iff_toNat_le]
  rw [exact]
  simp
  omega

theorem numeralTo_eq_append (n : Nat) (tail : Bytes) : numeralTo n tail = numeral n ++ tail := by
  induction n using Nat.strongRecOn generalizing tail with
  | _ n ih =>
    by_cases small : n < 10
    · rw [numeral, numeralTo.eq_def n tail, numeralTo.eq_def n []]
      simp [small]
    · rw [numeral, numeralTo.eq_def n tail, numeralTo.eq_def n []]
      simp only [small, dite_false]
      rw [ih (n / 10) (by omega) (digit (n % 10) :: tail),
        ih (n / 10) (by omega) [digit (n % 10)]]
      simp

theorem numeral_of_lt {n : Nat} (small : n < 10) : numeral n = [digit n] := by
  rw [numeral, numeralTo]
  simp [small]

theorem numeral_of_le {n : Nat} (large : 10 ≤ n) :
    numeral n = numeral (n / 10) ++ [digit (n % 10)] := by
  rw [numeral, numeralTo]
  have big : ¬ n < 10 := by omega
  simp only [big, dite_false]
  exact numeralTo_eq_append _ _

theorem value_append (digits : Bytes) (last : UInt8) :
    value (digits ++ [last]) = 10 * value digits + (last.toNat - 48) := by
  simp [value]

theorem value_numeral (n : Nat) : value (numeral n) = n := by
  induction n using Nat.strongRecOn with
  | _ n ih =>
    by_cases small : n < 10
    · rw [numeral_of_lt small]
      simp [value, toNat_digit small]
    · rw [numeral_of_le (by omega), value_append, ih (n / 10) (by omega),
        toNat_digit (by omega)]
      omega

theorem isDigit_of_mem_numeral {n : Nat} {b : UInt8} (member : b ∈ numeral n) :
    isDigit b = true := by
  induction n using Nat.strongRecOn with
  | _ n ih =>
    by_cases small : n < 10
    · rw [numeral_of_lt small, List.mem_singleton] at member
      exact member ▸ isDigit_digit small
    · rw [numeral_of_le (by omega), List.mem_append, List.mem_singleton] at member
      rcases member with earlier | rfl
      · exact ih (n / 10) (by omega) earlier
      · exact isDigit_digit (by omega)

end Swarm.Decimal
