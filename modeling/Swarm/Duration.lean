import Swarm.Text.Rounding

/-!
Spans of time, in seconds and nanoseconds.
-/

namespace Swarm

structure Duration where
  seconds : Nat
  nanoseconds : Nat
deriving DecidableEq, Inhabited

namespace Duration

def ofSeconds (n : Nat) : Duration := ⟨n, 0⟩

def ofNanoseconds (n : Nat) : Duration := ⟨n / 1000000000, n % 1000000000⟩

def ofMilliseconds (n : Nat) : Duration := ofNanoseconds (n * 1000000)

def toNanoseconds (d : Duration) : Nat := d.seconds * 1000000000 + d.nanoseconds

def toFloat (d : Duration) : Float :=
  d.seconds.toUInt64.toFloat + d.nanoseconds.toUInt64.toFloat / 1000000000.0

/-- The span of a number of seconds, to the nearest nanosecond and of two equally near ones the
even one; `none` for what is no number, is negative or has `2 ^ 64` seconds or more. -/
def ofFloat? (x : Float) : Option Duration :=
  match Rounding.fraction? x with
  | some ⟨false, numerator, denominator⟩ =>
    if numerator < UInt64.size * denominator then
      some (ofNanoseconds (Rounding.nearestEven (numerator * 1000000000) denominator))
    else none
  | _ => none

/-- Hours, minutes and seconds, beginning with the first that is not zero. -/
def text (d : Duration) : String :=
  let hours := d.seconds / 3600
  let minutes := d.seconds % 3600 / 60
  let seconds := d.seconds % 60
  if hours > 0 then s!"{hours}h {minutes}m {seconds}s"
  else if minutes > 0 then s!"{minutes}m {seconds}s"
  else s!"{seconds}s"

/-- A span in the largest unit that leaves no zero in front of the point, with the decimals that
are not zero. -/
def briefText (d : Duration) : String :=
  let (whole, fraction, places, unit) : Nat × Nat × Nat × String :=
    if d.seconds > 0 then (d.seconds, d.nanoseconds, 9, "s")
    else if d.nanoseconds ≥ 1000000 then
      (d.nanoseconds / 1000000, d.nanoseconds % 1000000, 6, "ms")
    else if d.nanoseconds ≥ 1000 then (d.nanoseconds / 1000, d.nanoseconds % 1000, 3, "µs")
    else (d.nanoseconds, 0, 0, "ns")
  let digits := (Rounding.padded places fraction).reverse.dropWhile (· == '0')
  if digits.isEmpty then s!"{whole}{unit}"
  else s!"{whole}.{String.ofList digits.reverse}{unit}"

end Duration

end Swarm
