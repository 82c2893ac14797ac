import Swarm.Sha1
import Swarm.Wire.Handshake
import Swarm.Url.Authority

/-!
What a client tells the tracker, and the URL that says it.

The report is appended to the announce URL as seven parameters. Octets other than ASCII letters and
digits are written as percent escapes, so no value can contain a separator.
-/

namespace Swarm.Tracker

structure Request where
  infoHash : Digest
  peerId : PeerId
  port : UInt16
  uploaded : UInt64
  downloaded : UInt64
  left : UInt64
  compact : Bool
deriving DecidableEq

def isPlain (b : UInt8) : Bool :=
  (48 ≤ b && b ≤ 57) || (65 ≤ b && b ≤ 90) || (97 ≤ b && b ≤ 122)

def escapeOctet (b : UInt8) : List Char :=
  if isPlain b then [Char.ofNat b.toNat]
  else ['%', Hex.upperDigit (b.toNat / 16), Hex.upperDigit (b.toNat % 16)]

def escape (b : Bytes) : List Char := b.flatMap escapeOctet

def numeral (n : Nat) : List Char := (toString n).toList

def Request.parameters (r : Request) : List (String × List Char) :=
  [("info_hash", escape r.infoHash.1), ("peer_id", escape r.peerId.1),
    ("port", numeral r.port.toNat), ("uploaded", numeral r.uploaded.toNat),
    ("downloaded", numeral r.downloaded.toNat), ("left", numeral r.left.toNat),
    ("compact", numeral r.compact.toNat)]

def joinParameters : List (String × List Char) → List Char
  | [] => []
  | [(name, value)] => name.toList ++ '=' :: value
  | (name, value) :: rest => name.toList ++ '=' :: (value ++ '&' :: joinParameters rest)

def Request.url? (announce : String) (r : Request) : Option String :=
  if Url.isWebUrl announce then
    let separator := if announce.toList.contains '?' then '&' else '?'
    some (announce ++ String.ofList (separator :: joinParameters r.parameters))
  else none

end Swarm.Tracker
