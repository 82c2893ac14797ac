import Swarm.Bytes

/-!
Reading octets as UTF-8 text when some of them are not valid: every longest run that starts a
character without finishing it becomes one replacement character, and so does every octet that
starts none.
-/

namespace Swarm.Utf8

def replacement : Char := '\ufffd'

def within (low high b : UInt8) : Bool := low ≤ b && b ≤ high

/-- The second octets that may follow a first octet of a character of three or four octets. -/
def secondRange (first : UInt8) : UInt8 × UInt8 :=
  if first = 0xe0 then (0xa0, 0xbf)
  else if first = 0xed then (0x80, 0x9f)
  else if first = 0xf0 then (0x90, 0xbf)
  else if first = 0xf4 then (0x80, 0x8f)
  else (0x80, 0xbf)

def payload (b : UInt8) : Nat := b.toNat % 64

def isTail (b : UInt8) : Bool := within 0x80 0xbf b

def head (first : UInt8) (rest : Bytes) : Char × Bytes :=
  if first < 0x80 then (Char.ofNat first.toNat, rest)
  else if within 0xc2 0xdf first then
    match rest with
    | b :: afterB =>
      if isTail b then (Char.ofNat (first.toNat % 32 * 64 + payload b), afterB)
      else (replacement, rest)
    | [] => (replacement, rest)
  else if within 0xe0 0xf4 first then
    match rest with
    | b :: afterB =>
      if within (secondRange first).1 (secondRange first).2 b then
        match afterB with
        | c :: afterC =>
          if isTail c then
            if first < 0xf0 then
              (Char.ofNat (first.toNat % 16 * 4096 + payload b * 64 + payload c), afterC)
            else
              match afterC with
              | d :: afterD =>
                if isTail d then
                  (Char.ofNat (first.toNat % 8 * 262144 + payload b * 4096 + payload c * 64
                    + payload d), afterD)
                else (replacement, afterC)
              | [] => (replacement, afterC)
          else (replacement, afterB)
        | [] => (replacement, afterB)
      else (replacement, rest)
    | [] => (replacement, rest)
  else (replacement, rest)

theorem length_head_le (first : UInt8) (rest : Bytes) :
    (head first rest).2.length ≤ rest.length := by
  unfold head
  grind

def charsOnto (done : List Char) (b : Bytes) : List Char :=
  match b with
  | [] => done
  | first :: rest => charsOnto ((head first rest).1 :: done) (head first rest).2
termination_by b.length
decreasing_by
  have shorter := length_head_le first rest
  simp only [List.length_cons]
  omega

/-- The text of octets, invalid runs replaced. -/
def lossy (b : Bytes) : String := String.ofList (charsOnto [] b).reverse

end Swarm.Utf8
