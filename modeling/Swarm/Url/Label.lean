import Swarm.Text.Composition
import Swarm.Text.Direction
import Swarm.Text.DomainCharacter
import Swarm.Text.Joining
import Swarm.Text.Mark
import Swarm.Text.Punycode

/-!
Labels: what stands between the points of a host's name.

A label may be coded in ASCII, behind `xn--`, and is then held to the same rules as one that is
written out. Marks and joiners need something that they can combine with, and a name with letters
of both directions keeps them apart.
-/

namespace Swarm.Url

abbrev Label := List Char

namespace Label

def maxLength : Nat := 1000

def maxCodedLength : Nat := 2000

/-- The label that a label spells: what it codes, if it is a coded one, and itself otherwise. What
is coded has to be a label beyond ASCII as it would stand in a name. -/
def spelled? (label : Label) : Option Label :=
  match label with
  | 'x' :: 'n' :: '-' :: '-' :: coded =>
    if coded.isEmpty ∨ coded.getLast? = some '-' ∨ maxCodedLength < coded.length then none
    else (Punycode.decode? coded).filter fun spelled =>
      spelled.all (DomainCharacter.treatment · == .kept) && Text.composed spelled == spelled
  | _ => some label

def joinsBehind (before : List Char) : Bool :=
  match before.map Text.joining |>.find? (· != .transparent) with
  | some .left | some .both => true
  | _ => false

def joinsBefore (after : List Char) : Bool :=
  match after.map Text.joining |>.find? (· != .transparent) with
  | some .right | some .both => true
  | _ => false

/-- Whether a joiner may stand between two texts, the first of them reversed: behind a virama, and
one that keeps letters from joining also between letters that would join. -/
def mayJoin (joiner : Char) (before after : List Char) : Bool :=
  before.head?.any Text.isVirama ||
    (joiner == '\u200c' && joinsBehind before && joinsBefore after)

/-- Whether every joiner of a text may stand where it does; `before`, reversed, is in front of it. -/
def joinersFit (before : List Char) : List Char → Bool
  | [] => true
  | c :: after =>
    (!(c == '\u200c' || c == '\u200d') || mayJoin c before after) && joinersFit (c :: before) after

def isAllowed (label : Label) : Bool :=
  !label.head?.any Text.isMark && joinersFit [] label &&
    !(label.any (0x80 ≤ ·.toNat) && maxLength < label.length)

/-- Whether a label may stand in a name with letters that are written from right to left. It has the
direction of its first letter, ends with a letter of that direction or a digit, marks aside, and has
no letter of the other direction and not both kinds of digits. -/
def keepsDirection (label : Label) : Bool :=
  match label.map Text.direction with
  | [] => true
  | first :: rest =>
    let body := rest.reverse.dropWhile (· == .mark)
    match first with
    | .leftToRight =>
      body.head?.all (fun d => d == .leftToRight || d == .digit) &&
        body.all fun d => d == .leftToRight || d == .digit || d == .mark || d == .neutral
    | .rightToLeft =>
      body.head?.all (fun d => d == .rightToLeft || d == .digit || d == .arabicDigit) &&
        body.all (fun d => d != .leftToRight && d != .separator) &&
        !(body.contains .digit && body.contains .arabicDigit)
    | _ => false

end Label

end Swarm.Url
