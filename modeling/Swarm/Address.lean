import Swarm.Bytes
import Swarm.Text.Hex

/-!
Internet addresses: their values, their text, and the reading of that text.

The reader is a set of scanners over characters; a scanner takes the characters in front of it and
gives what it read with the characters left, or `none` and nothing is taken. An address is read
only if its scanner leaves nothing.
-/

namespace Swarm

structure Ipv4 where
  a : UInt8
  b : UInt8
  c : UInt8
  d : UInt8
deriving DecidableEq, Inhabited

structure Ipv6 where
  groups : List UInt16
deriving DecidableEq, Inhabited

inductive IpAddress where
  | v4 (address : Ipv4)
  | v6 (address : Ipv6)
deriving DecidableEq, Inhabited

/-- An internet address and a port; `scope` is that of a six-part address and else zero. -/
structure SocketAddress where
  ip : IpAddress
  port : UInt16
  scope : UInt32
deriving DecidableEq, Inhabited

namespace Ipv4

def text (x : Ipv4) : String :=
  s!"{x.a.toNat}.{x.b.toNat}.{x.c.toNat}.{x.d.toNat}"

end Ipv4

namespace Ipv6

def mapped? (x : Ipv6) : Option Ipv4 :=
  match x.groups with
  | [0, 0, 0, 0, 0, 0xffff, high, low] =>
    some ⟨UInt8.ofNat (high.toNat / 256), UInt8.ofNat high.toNat, UInt8.ofNat (low.toNat / 256),
      UInt8.ofNat low.toNat⟩
  | _ => none

def zeros (groups : List UInt16) : Nat := (groups.takeWhile (· == 0)).length

/-- Start and length of the longest run of zero groups, the first of equally long ones, when the
groups start at index `i`. -/
def longestZeros : Nat → List UInt16 → Nat × Nat
  | _, [] => (0, 0)
  | i, g :: rest =>
    let here := zeros (g :: rest)
    let later := longestZeros (i + 1) rest
    if later.2 ≤ here then (i, here) else later

def groupsText (groups : List UInt16) : String :=
  ":".intercalate (groups.map fun g => Hex.ofNat g.toNat)

/-- Groups in hexadecimal, the longest run of at least two zero groups left out. -/
def text (x : Ipv6) : String :=
  match x.mapped? with
  | some v4 => s!"::ffff:{v4.text}"
  | none =>
    let run := longestZeros 0 x.groups
    if run.2 > 1 then
      groupsText (x.groups.take run.1) ++ "::" ++ groupsText (x.groups.drop (run.1 + run.2))
    else groupsText x.groups

end Ipv6

def IpAddress.text : IpAddress → String
  | v4 x => x.text
  | v6 x => x.text

/-- Address and port; an address of groups stands in brackets, with its scope unless that is
zero. -/
def SocketAddress.text (s : SocketAddress) : String :=
  match s.ip with
  | .v4 x => s!"{x.text}:{s.port.toNat}"
  | .v6 x =>
    let scope := if s.scope = 0 then "" else s!"%{s.scope.toNat}"
    s!"[{x.text}{scope}]:{s.port.toNat}"

namespace AddressScan

def char? (c : Char) : List Char → Option (List Char)
  | x :: rest => if x = c then some rest else none
  | [] => none

def digit? (base : Nat) (c : Char) : Option Nat := (Hex.value? c).filter (· < base)

def digits (base : Nat) : Nat → Nat → List Char → Nat × Nat × List Char
  | value, count, [] => (value, count, [])
  | value, count, c :: rest =>
    match digit? base c with
    | none => (value, count, c :: rest)
    | some d => digits base (base * value + d) (count + 1) rest

/-- Takes a number below `bound` of at most `maxDigits` digits; a zero in front of other digits is
refused unless `zerosAllowed`. -/
def number? (base bound : Nat) (maxDigits : Option Nat) (zerosAllowed : Bool)
    (s : List Char) : Option (Nat × List Char) :=
  let (value, count, rest) := digits base 0 0 s
  if count = 0 then none
  else if maxDigits.any (· < count) then none
  else if ¬ zerosAllowed ∧ s.head? = some '0' ∧ 1 < count then none
  else if value < bound then some (value, rest) else none

def separator? (c : Char) (i : Nat) (s : List Char) : Option (List Char) :=
  if i = 0 then some s else char? c s

def octet? (i : Nat) (s : List Char) : Option (UInt8 × List Char) := do
  let s ← separator? '.' i s
  let (n, s) ← number? 10 256 (some 3) false s
  return (UInt8.ofNat n, s)

def ipv4? (s : List Char) : Option (Ipv4 × List Char) := do
  let (a, s) ← octet? 0 s
  let (b, s) ← octet? 1 s
  let (c, s) ← octet? 2 s
  let (d, s) ← octet? 3 s
  return (⟨a, b, c, d⟩, s)

def pair (x : Ipv4) : List UInt16 := [BigEndian.decode16 x.a x.b, BigEndian.decode16 x.c x.d]

/-- Takes groups while there are any and room is left for them, and tells whether the last two were
written as four octets; `i` groups have been taken before. -/
def groups (i : Nat) : Nat → List Char → List UInt16 × Bool × List Char
  | 0, s => ([], false, s)
  | room + 1, s =>
    let quad := if room = 0 then none else (separator? ':' i s).bind ipv4?
    match quad with
    | some (x, rest) => (pair x, true, rest)
    | none =>
      match (separator? ':' i s).bind (number? 16 65536 (some 4) true) with
      | none => ([], false, s)
      | some (g, rest) =>
        let (more, quad, rest) := groups (i + 1) room rest
        (UInt16.ofNat g :: more, quad, rest)

def ipv6? (s : List Char) : Option (Ipv6 × List Char) :=
  let (front, quad, s) := groups 0 8 s
  if front.length = 8 then some (⟨front⟩, s)
  else if quad then none
  else do
    let s ← char? ':' s
    let s ← char? ':' s
    let (back, _, s) := groups 0 (7 - front.length) s
    return (⟨front ++ List.replicate (8 - front.length - back.length) 0 ++ back⟩, s)

def port? (s : List Char) : Option (UInt16 × List Char) := do
  let s ← char? ':' s
  let (n, s) ← number? 10 65536 none true s
  return (UInt16.ofNat n, s)

def scope? (s : List Char) : Option (UInt32 × List Char) := do
  let s ← char? '%' s
  let (n, s) ← number? 10 UInt32.size none true s
  return (UInt32.ofNat n, s)

def socketV6? (s : List Char) : Option (SocketAddress × List Char) := do
  let s ← char? '[' s
  let (x, s) ← ipv6? s
  let (scope, s) := (scope? s).getD (0, s)
  let s ← char? ']' s
  let (port, s) ← port? s
  return (⟨.v6 x, port, scope⟩, s)

def socketV4? (s : List Char) : Option (SocketAddress × List Char) := do
  let (x, s) ← ipv4? s
  let (port, s) ← port? s
  return (⟨.v4 x, port, 0⟩, s)

def whole? {α : Type} (scan : List Char → Option (α × List Char)) (text : String) : Option α :=
  match scan text.toList with
  | some (a, []) => some a
  | _ => none

end AddressScan

def IpAddress.ofText? (text : String) : Option IpAddress :=
  AddressScan.whole?
    (fun s =>
      ((AddressScan.ipv4? s).map fun r => (IpAddress.v4 r.1, r.2)).or
        ((AddressScan.ipv6? s).map fun r => (IpAddress.v6 r.1, r.2))) text

def SocketAddress.ofText? (text : String) : Option SocketAddress :=
  AddressScan.whole? (fun s => (AddressScan.socketV4? s).or (AddressScan.socketV6? s)) text

end Swarm
