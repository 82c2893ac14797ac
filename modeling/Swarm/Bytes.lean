/-!
Octet sequences, and the few readings of them that every format here shares: exact splits,
big-endian words, fixed-width fields and text.

Lengths are natural numbers and words are built by positional arithmetic, so the round trips
below are facts about quotients and remainders.
-/

namespace Swarm

abbrev Bytes := List UInt8

abbrev Fixed (n : Nat) := { b : Bytes // b.length = n }

namespace Bytes

def ofText (text : String) : Bytes := text.toByteArray.data.toList

def text? (b : Bytes) : Option String := String.fromUTF8? ⟨b.toArray⟩

def split? (n : Nat) (b : Bytes) : Option (Bytes × Bytes) :=
  let head := b.take n
  if head.length = n then some (head, b.drop n) else none

theorem split?_eq_some_iff {n : Nat} {b head rest : Bytes} :
    split? n b = some (head, rest) ↔ head.length = n ∧ b = head ++ rest := by
  simp only [split?]
  constructor
  · intro found
    split at found
    next full =>
      simp only [Option.some.injEq, Prod.mk.injEq] at found
      obtain ⟨rfl, rfl⟩ := found
      exact ⟨full, (List.take_append_drop n b).symm⟩
    next => exact absurd found (by simp)
  · rintro ⟨rfl, rfl⟩
    simp

theorem split?_eq_none_iff {n : Nat} {b : Bytes} : split? n b = none ↔ b.length < n := by
  unfold split?
  simp only [List.length_take]
  by_cases enough : n ≤ b.length
  · simp only [Nat.min_eq_left enough, if_true, reduceCtorEq, false_iff]
    omega
  · have short : min n b.length ≠ n := by omega
    simp only [short, if_false, true_iff]
    omega

def field? (n : Nat) (b : Bytes) : Option (Fixed n × Bytes) :=
  let head := b.take n
  if full : head.length = n then some (⟨head, full⟩, b.drop n) else none

def fixed? (n : Nat) (b : Bytes) : Option (Fixed n) :=
  if full : b.length = n then some ⟨b, full⟩ else none

/-- The records of `n` octets that the sequence consists of, a short last one dropped. -/
def records (n : Nat) : Nat → Bytes → List Bytes
  | 0, _ => []
  | count + 1, b => b.take n :: records n count (b.drop n)

end Bytes

def Fixed.fill (n : Nat) (octet : UInt8) : Fixed n :=
  ⟨List.replicate n octet, List.length_replicate⟩

instance (n : Nat) : Inhabited (Fixed n) := ⟨Fixed.fill n 0⟩

namespace BigEndian

def encode16 (w : UInt16) : Bytes :=
  [UInt8.ofNat (w.toNat / 256), UInt8.ofNat w.toNat]

def decode16 (a b : UInt8) : UInt16 :=
  UInt16.ofNat (a.toNat * 256 + b.toNat)

def encode32 (w : UInt32) : Bytes :=
  [UInt8.ofNat (w.toNat / 16777216), UInt8.ofNat (w.toNat / 65536),
    UInt8.ofNat (w.toNat / 256), UInt8.ofNat w.toNat]

def decode32 (a b c d : UInt8) : UInt32 :=
  UInt32.ofNat (a.toNat * 16777216 + b.toNat * 65536 + c.toNat * 256 + d.toNat)

@[simp] theorem length_encode16 (w : UInt16) : (encode16 w).length = 2 := rfl

@[simp] theorem length_encode32 (w : UInt32) : (encode32 w).length = 4 := rfl

theorem decode16_encode16 (w : UInt16) :
    decode16 (UInt8.ofNat (w.toNat / 256)) (UInt8.ofNat w.toNat) = w := by
  apply UInt16.toNat_inj.1
  have bound := w.toNat_lt
  simp only [decode16, UInt16.toNat_ofNat', UInt8.toNat_ofNat']
  omega

theorem decode32_encode32 (w : UInt32) :
    decode32 (UInt8.ofNat (w.toNat / 16777216)) (UInt8.ofNat (w.toNat / 65536))
      (UInt8.ofNat (w.toNat / 256)) (UInt8.ofNat w.toNat) = w := by
  apply UInt32.toNat_inj.1
  have bound := w.toNat_lt
  simp only [decode32, UInt32.toNat_ofNat', UInt8.toNat_ofNat']
  omega

theorem encode16_decode16 (a b : UInt8) : encode16 (decode16 a b) = [a, b] := by
  have ha := a.toNat_lt
  have hb := b.toNat_lt
  simp only [encode16, decode16, List.cons.injEq, and_true]
  refine ⟨?_, ?_⟩ <;> apply UInt8.toNat_inj.1 <;>
    simp only [UInt16.toNat_ofNat', UInt8.toNat_ofNat'] <;> omega

theorem encode32_decode32 (a b c d : UInt8) : encode32 (decode32 a b c d) = [a, b, c, d] := by
  have ha := a.toNat_lt
  have hb := b.toNat_lt
  have hc := c.toNat_lt
  have hd := d.toNat_lt
  simp only [encode32, decode32, List.cons.injEq, and_true]
  refine ⟨?_, ?_, ?_, ?_⟩ <;> apply UInt8.toNat_inj.1 <;>
    simp only [UInt32.toNat_ofNat', UInt8.toNat_ofNat'] <;> omega

end BigEndian

end Swarm
