import Swarm.Proofs.Bencode.Numerals

/-!
Reading bencode at positions of one input, with every sum, difference, index and slice guarded.

A guarded reader works as a reader over an array does: it keeps a position, searches the octets from
there on, cuts the text between two positions out of the input and goes on behind it. A sum that no
64-bit word holds, a difference below zero, and an octet or a slice that is not there, each ends the
walk in a way of its own, and so does a loop or a nesting of calls that needs more than `limit`
rounds. Looking for the octets of one key is a walk apart from the one that collects a dictionary.
-/

namespace Swarm.Bencode

inductive Halt where
  | refused (e : DecodeError)
  /-- A sum is no 64-bit word, or a difference is below zero. -/
  | overflow
  | outside
  | unfinished

abbrev Walk := Except Halt

namespace Walk

def refuse {α : Type} (e : DecodeError) : Walk α := .error (.refused e)

def add (a b : Nat) : Walk Nat :=
  if a + b < UInt64.size then .ok (a + b) else .error .overflow

def sub (a b : Nat) : Walk Nat :=
  if b ≤ a then .ok (a - b) else .error .overflow

def slice (b : Bytes) (first last : Nat) : Walk Bytes :=
  if first ≤ last ∧ last ≤ b.length then .ok ((b.take last).drop first) else .error .outside

def octet (b : Bytes) (position : Nat) : Walk UInt8 :=
  match b[position]? with
  | some x => .ok x
  | none => .error .outside

end Walk

namespace Guarded

open Walk

variable (data : Bytes)

def peek (position : Nat) : Walk UInt8 :=
  match data[position]? with
  | some b => .ok b
  | none => refuse (.endOfInput position)

def number (position : Nat) (digits : Bytes) : Walk Int :=
  let unsigned := if digits.head? = some 45 then digits.drop 1 else digits
  if unsigned.isEmpty then refuse (.invalidInteger position .noDigits)
  else if ¬ unsigned.all Decimal.isDigit then refuse (.invalidInteger position .nonDigit)
  else do
    let lead ← octet unsigned 0
    if lead = 48 ∧ (unsigned.length > 1 ∨ digits.length ≠ unsigned.length) then
      refuse (.invalidInteger position .leadingZero)
    else return Decimal.signedValue digits

def integer (position : Nat) : Walk (Value × Nat) := do
  let first ← add position 1
  let ahead ← slice data first data.length
  match ahead.findIdx? (· == 101) with
  | none => refuse (.endOfInput data.length)
  | some i =>
    let last ← add first i
    let digits ← slice data first last
    let n ← number position digits
    let behind ← add last 1
    return (.integer n, behind)

def length (position : Nat) (digits : Bytes) : Walk Nat :=
  if digits.isEmpty ∨ ¬ digits.all Decimal.isDigit then refuse (.invalidLength position)
  else do
    let lead ← octet digits 0
    if digits.length > 1 ∧ lead = 48 then refuse (.invalidLength position)
    else if Decimal.value digits < UInt64.size then return Decimal.value digits
    else refuse (.invalidLength position)

def string (position : Nat) : Walk (Bytes × Nat) := do
  let ahead ← slice data position data.length
  match ahead.findIdx? (· == 58) with
  | none => refuse (.endOfInput data.length)
  | some i =>
    let colon ← add position i
    let digits ← slice data position colon
    let n ← length position digits
    let first ← add colon 1
    let left ← sub data.length first
    if n > left then refuse (.endOfInput data.length)
    else do
      let behind ← add first n
      let octets ← slice data first behind
      return (octets, behind)

def key (position : Nat) : Walk (Bytes × Nat) := do
  let b ← peek data position
  if Decimal.isDigit b then string data position else refuse (.keyNotString position)

/-- Does one round for each element up to an end mark, and comes to the position behind that. -/
def loop {σ : Type} (round : σ → Nat → Walk (σ × Nat)) : Nat → σ → Nat → Walk (σ × Nat)
  | 0, _, _ => .error .unfinished
  | rounds + 1, state, position => do
    let b ← peek data position
    if b = 101 then do
      let behind ← add position 1
      return (state, behind)
    else do
      let (later, next) ← round state position
      loop round rounds later next

variable (item : Nat → Walk (Value × Nat))

def pushItem (done : List Value) (position : Nat) : Walk (List Value × Nat) := do
  let (v, next) ← item position
  return (done ++ [v], next)

def field (position : Nat) : Walk (Bytes × Value × Nat × Nat) := do
  let (k, before) ← key data position
  let (v, behind) ← item before
  return (k, v, before, behind)

def putEntry (map : Entries) (position : Nat) : Walk (Entries × Nat) := do
  let (k, v, _, next) ← field data item position
  return (map.insert k v, next)

def noteRaw (wanted : Bytes) (found : Option Bytes) (position : Nat) :
    Walk (Option Bytes × Nat) := do
  let (k, _, before, next) ← field data item position
  if k = wanted then do
    let raw ← slice data before next
    return (some raw, next)
  else return (found, next)

def value (limit : Nat) : Nat → Nat → Nat → Walk (Value × Nat)
  | 0, _, _ => .error .unfinished
  | calls + 1, depth, position =>
    if depth > maxDepth then refuse (.tooDeep maxDepth)
    else do
      let b ← peek data position
      if b = 105 then integer data position
      else if b = 108 then do
        let first ← add position 1
        let deeper ← add depth 1
        let (vs, behind) ← loop data (pushItem (value limit calls deeper)) limit [] first
        return (.list vs, behind)
      else if b = 100 then do
        let first ← add position 1
        let deeper ← add depth 1
        let (map, behind) ← loop data (putEntry data (value limit calls deeper)) limit [] first
        return (.dict map, behind)
      else if Decimal.isDigit b then do
        let (octets, behind) ← string data position
        return (.bytes octets, behind)
      else refuse (.unexpectedByte b position)

def decode (limit : Nat) : Walk Value := do
  let (v, behind) ← value data limit limit 0 0
  let left ← sub data.length behind
  if left ≠ 0 then refuse (.trailingData behind) else return v

def findRaw (limit : Nat) (wanted : Bytes) : Walk (Option Bytes) := do
  let b ← peek data 0
  if b ≠ 100 then do
    let _ ← value data limit limit 0 0
    return none
  else do
    let first ← add 0 1
    let (found, _) ← loop data (noteRaw data (value data limit limit 1) wanted) limit none first
    return found

end Guarded

end Swarm.Bencode
