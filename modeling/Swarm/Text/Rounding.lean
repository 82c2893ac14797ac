/-!
Numbers written with a fixed number of decimals.

A floating-point number is taken apart into the exact fraction that it denotes, and that fraction
is rounded to the nearest decimal in exact arithmetic; of two equally near ones the one with an
even last digit is taken.
-/

namespace Swarm.Rounding

/-- The quotient rounded to the nearest number, and to the even one of two equally near ones. -/
def nearestEven (numerator denominator : Nat) : Nat :=
  let quotient := numerator / denominator
  let twice := 2 * (numerator % denominator)
  if twice < denominator then quotient
  else if denominator < twice then quotient + 1
  else quotient + quotient % 2

structure Signed where
  negative : Bool
  numerator : Nat
  denominator : Nat

def fraction? (x : Float) : Option Signed :=
  let bits := x.toBits.toNat
  let negative := bits >>> 63 == 1
  let exponent := (bits >>> 52) % 2048
  let mantissa := bits % (1 <<< 52)
  if exponent = 2047 then none
  else if exponent = 0 then some ⟨negative, mantissa, 1 <<< 1074⟩
  else
    let mantissa := mantissa + 1 <<< 52
    if 1075 ≤ exponent then some ⟨negative, mantissa <<< (exponent - 1075), 1⟩
    else some ⟨negative, mantissa, 1 <<< (1075 - exponent)⟩

def padded (width n : Nat) : List Char :=
  let digits := Nat.toDigits 10 n
  List.replicate (width - digits.length) '0' ++ digits

def text (places : Nat) (x : Float) : String :=
  match fraction? x with
  | some ⟨negative, numerator, denominator⟩ =>
    let unit := Nat.pow 10 places
    let scaled := nearestEven (numerator * unit) denominator
    let sign := if negative then "-" else ""
    s!"{sign}{scaled / unit}.{String.ofList (padded places (scaled % unit))}"
  | none => if x.isNaN then "NaN" else if x > 0.0 then "inf" else "-inf"

end Swarm.Rounding
