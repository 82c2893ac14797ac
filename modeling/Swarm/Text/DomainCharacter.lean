import Swarm.Text.DomainMapping

/-!
How characters may stand in the name of a host.

A character is kept, left out, replaced by others, or not allowed at all. Capital letters are
replaced by small ones, and what only looks different by what it looks like.
-/

namespace Swarm.DomainCharacter

inductive Treatment where
  | kept
  | ignored
  | replaced (others : List Char)
  | refused
deriving DecidableEq

def treatmentBy (rule : Text.DomainRule) (start : Nat) (c : Char) : Treatment :=
  let distance := c.toNat - start
  match rule with
  | .keep => .kept
  | .ignore => .ignored
  | .refuse => .refused
  | .shift target => .replaced [Char.ofNat (target + distance)]
  | .alternate target =>
    if distance % 2 = 0 then .replaced [Char.ofNat (target + distance)] else .kept
  | .replace others => .replaced others

def treatment (c : Char) : Treatment :=
  if c.toNat < 0x80 then (if c.isUpper then .replaced [c.toLower] else .kept)
  else match Text.domainRules.change? c.toNat with
    | some (start, rule) => treatmentBy rule start c
    | none => .refused

/-- Whether an ASCII character separates or escapes parts of a URL, so that no host may have it. -/
def isForbidden (c : Char) : Bool :=
  c.toNat ≤ 0x20 || c.toNat == 0x7f ||
    ['#', '%', '/', ':', '<', '>', '?', '@', '[', '\\', ']', '^', '|'].contains c

end Swarm.DomainCharacter
