import Swarm.Text.Hex

/-!
Properties of code points that stay the same over long runs.

A table names the code points at which a property changes, in ascending order, each with the value
that holds from there up to the next one. Written out it is a row of entries such as `300=M`: the
code point in hexadecimal and the value, with blanks or line ends between the entries. The tables
of this library are those of Unicode 17.
-/

namespace Swarm.Text

/-- The code points at which a property changes, and its value from each on. -/
structure CodeTable (α : Type) where
  changes : Array (Nat × α)

namespace CodeTable

def words (text : List Char) : List (List Char) :=
  let (first, rest) := text.foldr
    (fun c (word, rest) =>
      if c == ' ' || c == '\n' then ([], if word.isEmpty then rest else word :: rest)
      else (c :: word, rest))
    ([], [])
  if first.isEmpty then rest else first :: rest

def codePoint (digits : List Char) : Nat :=
  digits.foldl (fun n c => 16 * n + (Hex.value? c).getD 0) 0

def ofText {α : Type} (read : List Char → α) (text : String) : CodeTable α :=
  let entry := fun word : List Char =>
    (codePoint (word.takeWhile (· != '=')), read ((word.dropWhile (· != '=')).drop 1))
  ⟨((words text.toList).map entry).toArray⟩

/-- The last place from `low` up to below `high` at which the table has a change not behind `n`;
`low` if there is none behind `low`. -/
def placeOf {α : Type} (t : CodeTable α) (n low high : Nat) : Nat :=
  if low + 1 < high then
    let middle := (low + high) / 2
    if t.changes[middle]?.all (n < ·.1) then placeOf t n low middle else placeOf t n middle high
  else low
termination_by high - low
decreasing_by all_goals omega

def change? {α : Type} (t : CodeTable α) (n : Nat) : Option (Nat × α) :=
  t.changes[t.placeOf n 0 t.changes.size]?.filter (·.1 ≤ n)

def value? {α : Type} (t : CodeTable α) (n : Nat) : Option α := (t.change? n).map (·.2)

end CodeTable

end Swarm.Text
