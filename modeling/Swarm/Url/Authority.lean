import Swarm.Url.Host

/-!
Whether a text is a URL of a web server: scheme `http` or `https`, any number of slashes, then the
part that says whom to ask: credentials, host and port. What follows those can be any text.

Blanks and controls around the text do not belong to it, and tabs and line ends inside it are
passed over.
-/

namespace Swarm.Url

def isPassedOver (c : Char) : Bool := c == '\t' || c == '\n' || c == '\r'

def significant (s : List Char) : List Char :=
  let isOuter := fun c : Char => decide (c.toNat ≤ 0x20)
  (((s.dropWhile isOuter).reverse.dropWhile isOuter).reverse).filter fun c => !isPassedOver c

def scheme? (s : List Char) : Option (List Char × List Char) :=
  let scheme := s.takeWhile fun c => c.isAlphanum || c == '+' || c == '-' || c == '.'
  match scheme, s.drop scheme.length with
  | first :: _, ':' :: rest =>
    if first.isAlpha then some (scheme.map Char.toLower, rest) else none
  | _, _ => none

def endsAuthority (c : Char) : Bool := c == '/' || c == '\\' || c == '?' || c == '#'

def withoutCredentials (s : List Char) : List Char :=
  if s.contains '@' then (s.reverse.takeWhile (· != '@')).reverse else s

/-- Cuts a text at the first colon outside of brackets. -/
def splitPort : Bool → List Char → List Char × Option (List Char)
  | _, [] => ([], none)
  | inside, c :: rest =>
    if c == ':' && !inside then ([], some rest)
    else
      let inside := if c == '[' then true else if c == ']' then false else inside
      let (host, port) := splitPort inside rest
      (c :: host, port)

/-- Whether a text is a port: nothing, or digits of a number of 16 bits. -/
def isPort (s : List Char) : Bool :=
  s.all Char.isDigit && s.foldl (fun n c => 10 * n + (c.toNat - 48)) 0 < 65536

def authorityHost? (s : List Char) : Option Host :=
  let (host, port) := splitPort false (withoutCredentials s)
  if port.all isPort then Host.ofText? host else none

def webHost? (text : String) : Option Host :=
  match scheme? (significant text.toList) with
  | none => none
  | some (scheme, rest) =>
    if scheme = ['h', 't', 't', 'p'] ∨ scheme = ['h', 't', 't', 'p', 's'] then
      authorityHost? ((rest.dropWhile fun c => c == '/' || c == '\\').takeWhile
        fun c => !endsAuthority c)
    else none

def isWebUrl (text : String) : Bool := (webHost? text).isSome

end Swarm.Url
