import Swarm.Bencode.Value
import Swarm.Text.Decimal
import Swarm.Text.Hex

/-!
Reading bencode from a cursor over octets.

A cursor is a position and the octets that follow it. Each reader takes a cursor and gives what it
read with the cursor behind it, or the reason why nothing can be read there. Nesting is bounded:
`Cursor.value` counts the levels that are left and recurses on that count, and its loops over items
and fields spend one unit of a budget for each of them, which the number of octets bounds.
-/

namespace Swarm.Bencode

/-- How many lists and dictionaries may enclose a value. -/
def maxDepth : Nat := 64

inductive IntegerFault where
  | noDigits
  | nonDigit
  | leadingZero
deriving DecidableEq

def IntegerFault.message : IntegerFault → String
  | noDigits => "no digits"
  | nonDigit => "non-digit character"
  | leadingZero => "leading zero"

/-- Why no value can be read. Positions count octets from the start of the input. -/
inductive DecodeError where
  | endOfInput (position : Nat)
  | invalidInteger (position : Nat) (fault : IntegerFault)
  | invalidLength (position : Nat)
  | unexpectedByte (byte : UInt8) (position : Nat)
  | trailingData (position : Nat)
  | tooDeep (limit : Nat)
  | keyNotString (position : Nat)
deriving DecidableEq

def DecodeError.message : DecodeError → String
  | endOfInput position => s!"unexpected end of input at byte {position}"
  | invalidInteger position fault => s!"invalid integer at byte {position}: {fault.message}"
  | invalidLength position => s!"invalid byte string length at byte {position}"
  | unexpectedByte byte position =>
    s!"unexpected byte 0x{Hex.text [byte]} at byte {position}"
  | trailingData position => s!"trailing data after value at byte {position}"
  | tooDeep limit => s!"nesting deeper than {limit} levels"
  | keyNotString position => s!"dictionary key at byte {position} is not a byte string"

structure Cursor where
  position : Nat
  rest : Bytes

namespace Cursor

def start (data : Bytes) : Cursor := ⟨0, data⟩

def extent (c : Cursor) : Nat := c.position + c.rest.length

def integerOf (digits : Bytes) : Except IntegerFault Int :=
  let negative := digits.head? = some 45
  let magnitude := if negative then digits.drop 1 else digits
  if magnitude.isEmpty then .error .noDigits
  else if ¬ magnitude.all Decimal.isDigit then .error .nonDigit
  else if magnitude.head? = some 48 ∧ (magnitude.length > 1 ∨ negative) then .error .leadingZero
  else if negative then .ok (-(Decimal.value magnitude : Int))
  else .ok (Decimal.value magnitude : Int)

def integer (c : Cursor) (after : Bytes) : Except DecodeError (Value × Cursor) :=
  let digits := after.takeWhile (· != 101)
  match after.drop digits.length with
  | [] => .error (.endOfInput c.extent)
  | _ :: rest =>
    match integerOf digits with
    | .error fault => .error (.invalidInteger c.position fault)
    | .ok n => .ok (.integer n, ⟨c.position + digits.length + 2, rest⟩)

def lengthOf? (digits : Bytes) : Option Nat :=
  if digits.isEmpty ∨ ¬ digits.all Decimal.isDigit then none
  else if digits.head? = some 48 ∧ digits.length > 1 then none
  else
    let n := Decimal.value digits
    if n < UInt64.size then some n else none

def string (c : Cursor) : Except DecodeError (Bytes × Cursor) :=
  let digits := c.rest.takeWhile (· != 58)
  match c.rest.drop digits.length with
  | [] => .error (.endOfInput c.extent)
  | _ :: after =>
    match lengthOf? digits with
    | none => .error (.invalidLength c.position)
    | some n =>
      match Bytes.split? n after with
      | none => .error (.endOfInput c.extent)
      | some (b, rest) => .ok (b, ⟨c.position + digits.length + 1 + n, rest⟩)

def key (c : Cursor) : Except DecodeError (Bytes × Cursor) :=
  match c.rest with
  | [] => .error (.endOfInput c.position)
  | b :: _ => if Decimal.isDigit b then c.string else .error (.keyNotString c.position)

def items (item : Cursor → Except DecodeError (Value × Cursor)) :
    Nat → List Value → Cursor → Except DecodeError (List Value × Cursor)
  | 0, _, c => .error (.endOfInput c.position)
  | budget + 1, done, c =>
    match c.rest with
    | [] => .error (.endOfInput c.position)
    | b :: after =>
      if b = 101 then .ok (done.reverse, ⟨c.position + 1, after⟩)
      else match item c with
        | .error e => .error e
        | .ok (v, next) => items item budget (v :: done) next

structure Field where
  key : Bytes
  value : Value
  before : Cursor
  behind : Cursor

def Field.raw (f : Field) : Bytes := f.before.rest.take (f.behind.position - f.before.position)

def fields (item : Cursor → Except DecodeError (Value × Cursor)) :
    Nat → List Field → Cursor → Except DecodeError (List Field × Cursor)
  | 0, _, c => .error (.endOfInput c.position)
  | budget + 1, done, c =>
    match c.rest with
    | [] => .error (.endOfInput c.position)
    | b :: after =>
      if b = 101 then .ok (done.reverse, ⟨c.position + 1, after⟩)
      else match c.key with
        | .error e => .error e
        | .ok (k, before) =>
          match item before with
          | .error e => .error e
          | .ok (v, behind) => fields item budget (⟨k, v, before, behind⟩ :: done) behind

/-- Reads one value that `levels - 1` more levels of lists and dictionaries may be nested in. -/
def value (budget : Nat) : Nat → Cursor → Except DecodeError (Value × Cursor)
  | 0, _ => .error (.tooDeep maxDepth)
  | levels + 1, c =>
    match c.rest with
    | [] => .error (.endOfInput c.position)
    | b :: after =>
      if b = 105 then c.integer after
      else if b = 108 then
        (items (value budget levels) budget [] ⟨c.position + 1, after⟩).map
          fun r => (.list r.1, r.2)
      else if b = 100 then
        (fields (value budget levels) budget [] ⟨c.position + 1, after⟩).map
          fun r => (.dict (Entries.ofList (r.1.map fun f => (f.key, f.value))), r.2)
      else if Decimal.isDigit b then c.string.map fun r => (.bytes r.1, r.2)
      else .error (.unexpectedByte b c.position)

def next (c : Cursor) : Except DecodeError (Value × Cursor) :=
  value (c.rest.length + 1) (maxDepth + 1) c

/-- Reads values until one cannot be read or nothing is left, at least once; each comes with the
cursor after it, which a failure leaves where it was. -/
def nextAll : Nat → Cursor → List (Except DecodeError Value × Cursor)
  | 0, _ => []
  | budget + 1, c =>
    match c.next with
    | .error e => [(.error e, c)]
    | .ok (v, behind) =>
      (.ok v, behind) :: if behind.rest.isEmpty then [] else nextAll budget behind

end Cursor

def decode (data : Bytes) : Except DecodeError Value :=
  match (Cursor.start data).next with
  | .error e => .error e
  | .ok (v, behind) =>
    if behind.rest.isEmpty then .ok v else .error (.trailingData behind.position)

def decodeAll (data : Bytes) : List (Except DecodeError Value × Cursor) :=
  Cursor.nextAll (data.length + 1) (Cursor.start data)

/-- The octets that spell what the dictionary at the start of `data` maps `key` to; of several
entries with that key the last one counts. -/
def findRaw (data : Bytes) (key : Bytes) : Except DecodeError (Option Bytes) :=
  let budget := data.length + 1
  match data with
  | 100 :: after =>
    (Cursor.fields (Cursor.value budget maxDepth) budget [] ⟨1, after⟩).map fun r =>
      (r.1.reverse.find? fun f => f.key == key).map Cursor.Field.raw
  | _ => (Cursor.start data).next.map fun _ => none

end Swarm.Bencode
