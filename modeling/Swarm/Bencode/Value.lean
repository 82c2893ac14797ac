import Swarm.Bytes

/-!
Bencode values: integers of any size, octet strings, lists, and dictionaries from octet strings
to values.

A dictionary is kept as the list of its entries in ascending order of their keys. `Entries.insert`
keeps that order and replaces the entry of an equal key, so a list of entries built by insertion
holds each key once.
-/

namespace Swarm.Bencode

inductive Value where
  | integer (n : Int)
  | bytes (b : Bytes)
  | list (items : List Value)
  | dict (entries : List (Bytes × Value))
deriving BEq, Inhabited

abbrev Entries := List (Bytes × Value)

namespace Entries

def insert (key : Bytes) (value : Value) : Entries → Entries
  | [] => [(key, value)]
  | (k, v) :: rest =>
    if key < k then (key, value) :: (k, v) :: rest
    else if key = k then (key, value) :: rest
    else (k, v) :: insert key value rest

/-- The entries of a sequence of insertions: of two with one key the later stays. -/
def ofList (fields : List (Bytes × Value)) : Entries :=
  fields.foldl (fun entries field => entries.insert field.1 field.2) []

def get? (entries : Entries) (key : Bytes) : Option Value := entries.lookup key

end Entries

namespace Value

def int? : Value → Option Int
  | integer n => some n
  | _ => none

def word64? (v : Value) : Option Nat :=
  match v.int? with
  | some (.ofNat n) => if n < UInt64.size then some n else none
  | _ => none

def signed64? (v : Value) : Option Int :=
  v.int?.bind fun n => if -9223372036854775808 ≤ n ∧ n < 9223372036854775808 then some n else none

def bytes? : Value → Option Bytes
  | bytes b => some b
  | _ => none

def text? (v : Value) : Option String := v.bytes?.bind Bytes.text?

def items? : Value → Option (List Value)
  | list items => some items
  | _ => none

def entries? : Value → Option Entries
  | dict entries => some entries
  | _ => none

def get? (v : Value) (key : Bytes) : Option Value := v.entries?.bind (Entries.get? · key)

def kind : Value → String
  | integer _ => "integer"
  | bytes _ => "byte string"
  | list _ => "list"
  | dict _ => "dictionary"

end Value

end Swarm.Bencode
