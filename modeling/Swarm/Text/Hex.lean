import Swarm.Bytes

/-!
Hexadecimal text: two lower-case digits for each octet, the high one first.

Main statements: digits of either case are read back (`value?_digit`, `value?_upperDigit`), the text
of octets is all digits, two for each (`isSome_value?_of_mem_text`, `length_text`), and the octets
are read back from it (`octets_text`).
-/

namespace Swarm.Hex

def digit (n : Nat) : Char :=
  if n < 10 then Char.ofNat (48 + n) else Char.ofNat (87 + n)

def upperDigit (n : Nat) : Char :=
  if n < 10 then Char.ofNat (48 + n) else Char.ofNat (55 + n)

def value? (c : Char) : Option Nat :=
  if '0' ≤ c ∧ c ≤ '9' then some (c.toNat - 48)
  else if 'a' ≤ c ∧ c ≤ 'f' then some (c.toNat - 87)
  else if 'A' ≤ c ∧ c ≤ 'F' then some (c.toNat - 55)
  else none

def octet (b : UInt8) : List Char := [digit (b.toNat / 16), digit (b.toNat % 16)]

def text (b : Bytes) : String := String.ofList (b.flatMap octet)

/-- The octets that pairs of digits stand for, up to the first that is no pair of digits. -/
def octets : List Char → Bytes
  | high :: low :: rest =>
    match value? high, value? low with
    | some h, some l => UInt8.ofNat (16 * h + l) :: octets rest
    | _, _ => []
  | _ => []

def ofNat (n : Nat) : String := String.ofList (Nat.toDigits 16 n)

theorem value?_digit {n : Nat} (small : n < 16) : value? (digit n) = some n := by
  have all : ∀ i : Fin 16, value? (digit i) = some i.val := by decide
  exact all ⟨n, small⟩

theorem value?_upperDigit {n : Nat} (small : n < 16) : value? (upperDigit n) = some n := by
  have all : ∀ i : Fin 16, value? (upperDigit i) = some i.val := by decide
  exact all ⟨n, small⟩

theorem toList_text (b : Bytes) : (text b).toList = b.flatMap octet := String.toList_ofList

theorem isSome_value?_of_mem_text {b : Bytes} {c : Char} (member : c ∈ (text b).toList) :
    (value? c).isSome = true := by
  rw [toList_text] at member
  obtain ⟨o, -, written⟩ := List.mem_flatMap.1 member
  have bound := o.toNat_lt
  obtain ⟨n, small, rfl⟩ : ∃ n, n < 16 ∧ c = digit n := by
    simp only [octet, List.mem_cons, List.not_mem_nil, or_false] at written
    rcases written with rfl | rfl
    · exact ⟨_, by omega, rfl⟩
    · exact ⟨_, by omega, rfl⟩
  rw [value?_digit small]
  rfl

theorem length_text (b : Bytes) : (text b).length = 2 * b.length := by
  rw [← String.length_toList, toList_text]
  induction b with
  | nil => rfl
  | cons o rest ih =>
    rw [List.flatMap_cons, List.length_append, ih, List.length_cons]
    change 2 + 2 * rest.length = 2 * (rest.length + 1)
    omega

theorem octets_text (b : Bytes) : octets (text b).toList = b := by
  rw [toList_text]
  induction b with
  | nil => rfl
  | cons o rest ih =>
    have bound := o.toNat_lt
    have whole : 16 * (o.toNat / 16) + o.toNat % 16 = o.toNat := Nat.div_add_mod o.toNat 16
    rw [List.flatMap_cons, octet, List.cons_append, List.cons_append, List.nil_append, octets,
      value?_digit (by omega), value?_digit (by omega)]
    simp only [whole, UInt8.ofNat_toNat, ih]

end Swarm.Hex
