import Swarm.Bytes
import Swarm.Text.Hex
import Swarm.Text.Split
import Swarm.Url.Label

/-!
The hosts that a URL may name: an address of groups in brackets, an address of up to four numbers,
or a name.

A name is first freed of percent escapes and brought to its one spelling. If its last label is a
number, all of it has to be an address.
-/

namespace Swarm.Url

inductive Host where
  | groups
  | numbers
  | name (labels : List Label)
deriving DecidableEq

namespace Host

/-- Undoes percent escapes; a percent sign that no two digits follow stands for itself. -/
def unescape : Bytes → Bytes
  | [] => []
  | 37 :: a :: b :: rest =>
    match Hex.value? (Char.ofNat a.toNat), Hex.value? (Char.ofNat b.toNat) with
    | some high, some low => UInt8.ofNat (16 * high + low) :: unescape rest
    | _, _ => 37 :: unescape (a :: b :: rest)
  | x :: rest => x :: unescape rest

/-- A name with its characters treated as names require and in one spelling; `none` if one of them
is refused. -/
def treated? (name : List Char) : Option (List Char) :=
  let treatments := name.map fun c => (c, DomainCharacter.treatment c)
  if treatments.any (·.2 == .refused) then none
  else some (Text.composed (treatments.flatMap fun
    | (c, .kept) => [c]
    | (_, .replaced others) => others
    | _ => []))

def areLabels (labels : List Label) : Bool :=
  labels.all Label.isAllowed &&
    (!labels.any (·.any Text.turnsLeft) || labels.all Label.keepsDirection)

/-- The value of a number in a host, `none` inside for one that needs more than 32 bits: decimal,
octal behind a zero, hexadecimal behind `0x`. -/
def number? (s : List Char) : Option (Option Nat) :=
  let (base, digits) : Nat × List Char := match s with
    | '0' :: 'x' :: rest | '0' :: 'X' :: rest => (16, rest)
    | '0' :: c :: rest => (8, c :: rest)
    | _ => (10, s)
  if s.isEmpty then none
  else if digits.all fun c => (Hex.value? c).any (· < base) then
    let value := digits.foldl (fun n c => base * n + (Hex.value? c).getD 0) 0
    some (if value < UInt32.size then some value else none)
  else none

/-- Whether the last label of a name, or the one in front of a final point, is a number. -/
def endsInNumber (labels : List (List Char)) : Bool :=
  let last := match labels.reverse with
    | [] :: before :: _ => before
    | last :: _ => last
    | [] => []
  (!last.isEmpty && last.all Char.isDigit) || (number? last).isSome

/-- Whether labels are an address of up to four numbers, of which the last one fills what the
others leave of 32 bits. -/
def isNumbers (labels : List (List Char)) : Bool :=
  let parts := if labels.getLast? = some [] then labels.dropLast else labels
  match (parts.mapM fun p => (number? p).join) with
  | none => false
  | some values =>
    match values.reverse with
    | [] => false
    | last :: before =>
      before.length < 4 && before.all (· < 256) && last < 1 <<< (8 * (4 - before.length))

/-- The length of the four decimal numbers at the end of an address of groups is right: each below
256 and without a zero in front. -/
def isQuad (s : List Char) : Bool :=
  let parts := Text.splitOn '.' s
  parts.length == 4 && parts.all fun p =>
    !p.isEmpty && p.all Char.isDigit && (p.length == 1 || p.head? != some '0') &&
      p.foldl (fun n c => 10 * n + (c.toNat - 48)) 0 < 256

/-- Checks the groups of an address from one on, `taken` having been read and `gap` telling whether
a double colon was; the first argument bounds the groups. -/
def isGroupsFrom : Nat → Nat → Bool → List Char → Bool
  | _, taken, gap, [] => gap || taken == 8
  | 0, _, _, _ => false
  | budget + 1, taken, gap, s =>
    if taken == 8 then false
    else match s with
      | ':' :: rest => !gap && isGroupsFrom budget (taken + 1) true rest
      | _ =>
        let digits := (s.take 4).takeWhile fun c => (Hex.value? c).isSome
        match s.drop digits.length with
        | [] => isGroupsFrom budget (taken + 1) gap []
        | '.' :: _ =>
          !digits.isEmpty && taken ≤ 6 && isQuad s && (gap || taken == 6)
        | ':' :: rest => !rest.isEmpty && isGroupsFrom budget (taken + 1) gap rest
        | _ => false

def isGroups (s : List Char) : Bool :=
  match s with
  | ':' :: ':' :: rest => isGroupsFrom 9 1 true rest
  | ':' :: _ | [] | [_] => false
  | _ => isGroupsFrom 9 0 false s

def ofText? (s : List Char) : Option Host :=
  match s with
  | '[' :: rest =>
    if rest.getLast? = some ']' ∧ isGroups rest.dropLast then some .groups else none
  | _ => do
    let text ← Bytes.text? (unescape (Bytes.ofText (String.ofList s)))
    let name ← treated? text.toList
    let labels ← (Text.splitOn '.' name).mapM Label.spelled?
    if name.isEmpty ∨ name.any DomainCharacter.isForbidden ∨ ¬ areLabels labels then none
    else if endsInNumber labels then (if isNumbers labels then some .numbers else none)
    else some (.name labels)

end Host

end Swarm.Url
