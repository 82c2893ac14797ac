/-!
Punycode: a label of any characters written with letters, digits and hyphens.

The characters below 128 stand in front, and after the last hyphen follow the insertions of the
others in ascending order, each as a number in base 36 that counts positions skipped. The digits
weigh more or less by a bias that adapts to the numbers read. All numbers have 32 bits.
-/

namespace Swarm.Punycode

def digit? (c : Char) : Option Nat :=
  if 'a' ≤ c ∧ c ≤ 'z' then some (c.toNat - 97)
  else if 'A' ≤ c ∧ c ≤ 'Z' then some (c.toNat - 65)
  else if '0' ≤ c ∧ c ≤ '9' then some (c.toNat - 22)
  else none

def threshold (k bias : Nat) : Nat :=
  if k ≤ bias then 1 else if bias + 26 ≤ k then 26 else k - bias

/-- Divides by 35 until at most 455 is left, and counts 36 for each division. -/
def shrink (delta k : Nat) : Nat × Nat :=
  if 455 < delta then shrink (delta / 35) (k + 36) else (delta, k)
termination_by delta
decreasing_by omega

def adapt (delta points : Nat) (first : Bool) : Nat :=
  let scaled := if first then delta / 700 else delta / 2
  let r := shrink (scaled + scaled / points) 0
  r.2 + 36 * r.1 / (r.1 + 38)

/-- Reads one number and adds it to `sum`: `place` is the place of the next digit and `weight` its
weight. Neither the sum nor the weight of a digit may need more than 32 bits. -/
def number? (bias : Nat) : Nat → Nat → Nat → List Char → Option (Nat × List Char)
  | _, _, _, [] => none
  | place, weight, sum, c :: rest =>
    match digit? c with
    | none => none
    | some d =>
      let sum := sum + d * weight
      let t := threshold place bias
      let weight := weight * (36 - t)
      if UInt32.size ≤ sum then none
      else if d < t then some (sum, rest)
      else if UInt32.size ≤ weight then none
      else number? bias (place + 36) weight sum rest

/-- Reads insertions into `out` until nothing is left, the first argument bounding their number;
`code` and `i` are the character and the position that the last one ended at. -/
def insertions? : Nat → Nat → Nat → Nat → List Nat → List Char → Option (List Nat)
  | _, _, _, _, out, [] => some out
  | 0, _, _, _, _, _ => none
  | budget + 1, code, i, bias, out, s =>
    match number? bias 36 1 i s with
    | none => none
    | some (sum, rest) =>
      let points := out.length + 1
      let place := sum % points
      let code := code + sum / points
      if 0x110000 ≤ code ∨ (0xd800 ≤ code ∧ code < 0xe000) then none
      else
        insertions? budget code (place + 1) (adapt (sum - i) points (i == 0))
          (out.take place ++ code :: out.drop place) rest

/-- Cuts a label at its last hyphen: the characters in front, and the insertions. A hyphen that has
nothing in front of it does not separate anything. -/
def split (label : List Char) : List Char × List Char :=
  let reversed := label.reverse
  match reversed.dropWhile (· != '-') with
  | _ :: c :: basic => ((c :: basic).reverse, (reversed.takeWhile (· != '-')).reverse)
  | _ => ([], label)

def decode? (label : List Char) : Option (List Char) :=
  let (basic, coded) := split label
  if basic.any (0x80 ≤ ·.toNat) then none
  else (insertions? coded.length 128 0 72 (basic.map Char.toNat) coded).map fun codes =>
    codes.map Char.ofNat

end Swarm.Punycode
