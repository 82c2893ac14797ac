import Swarm.Torrent.Content
import Swarm.Bencode.Decoding

/-!
Torrent descriptors: the announce URL, the content and the digest that names it.

A descriptor is read in a fixed order of checks, and the first one that fails is reported. The
naming digest is taken over the octets that spell the `info` dictionary in the descriptor itself,
not over a second writing of it, so entries unknown to this reader count towards it as well.
-/

namespace Swarm

open Bencode (Value DecodeError)

inductive DescriptorKey where
  | announce
  | info
  | name
  | length
  | pieceLength
  | pieces
deriving DecidableEq

def DescriptorKey.text : DescriptorKey → String
  | announce => "announce"
  | info => "info"
  | name => "name"
  | length => "length"
  | pieceLength => "piece length"
  | pieces => "pieces"

inductive Requirement where
  | text
  | positive
  | limitedPieceLength
  | octets
  | dictionary
deriving DecidableEq

def Requirement.words : Requirement → String
  | text => "UTF-8 string"
  | positive => "positive integer"
  | limitedPieceLength => "piece length of at most 1 GiB"
  | octets => "byte string"
  | dictionary => "dictionary"

inductive DescriptorError where
  | malformed (cause : DecodeError)
  | missing (key : DescriptorKey)
  | invalid (key : DescriptorKey) (requirement : Requirement)
  | raggedHashes (length : Nat)
  | pieceCount (expected found : Nat)
deriving DecidableEq

def DescriptorError.message : DescriptorError → String
  | malformed cause => s!"malformed bencode: {cause.message}"
  | missing key => s!"missing required field '{key.text}'"
  | invalid key requirement =>
    s!"field '{key.text}' is not a valid {requirement.words}"
  | raggedHashes length => s!"'pieces' length {length} is not a multiple of 20"
  | pieceCount expected found =>
    s!"expected {expected} pieces for the declared length, found {found} hashes"

def DescriptorError.chain : DescriptorError → List String
  | malformed cause => [(malformed cause).message, cause.message]
  | e => [e.message]

structure Descriptor where
  announce : String
  infoHash : Digest
  content : Content

namespace Descriptor

def entry (dict : Value) (key : DescriptorKey) : Except DescriptorError Value :=
  match dict.get? (Bytes.ofText key.text) with
  | none => .error (.missing key)
  | some v => .ok v

def entryAs {α : Type} (dict : Value) (key : DescriptorKey) (requirement : Requirement)
    (read? : Value → Option α) : Except DescriptorError α :=
  match entry dict key with
  | .error e => .error e
  | .ok v =>
    match read? v with
    | none => .error (.invalid key requirement)
    | some a => .ok a

def positive? (v : Value) : Option Nat := v.word64?.filter (0 < ·)

/-- Cuts octets into digests, as many as they hold in full. -/
def digests : Nat → Bytes → List Digest
  | 0, _ => []
  | count + 1, b =>
    match Bytes.field? 20 b with
    | none => []
    | some (d, rest) => d :: digests count rest

def hashes (pieces : Bytes) : Except DescriptorError (List Digest) :=
  if pieces.length % 20 ≠ 0 then .error (.raggedHashes pieces.length)
  else .ok (digests (pieces.length / 20) pieces)

def contentOf (info : Value) : Except DescriptorError Content := do
  let name ← entryAs info .name .text Value.text?
  let length ← entryAs info .length .positive positive?
  let pieceLength ← entryAs info .pieceLength .positive positive?
  if pieceLength > maxPieceLength then
    throw (.invalid .pieceLength .limitedPieceLength)
  let pieces ← entryAs info .pieces .octets Value.bytes?
  let hashes ← hashes pieces
  let content : Content := ⟨name, length, pieceLength, hashes⟩
  if content.expectedPieces ≠ content.pieceCount then
    throw (.pieceCount content.expectedPieces content.pieceCount)
  return content

def rawInfo (data : Bytes) : Except DescriptorError Bytes :=
  match Bencode.findRaw data (Bytes.ofText DescriptorKey.info.text) with
  | .error e => .error (.malformed e)
  | .ok none => .error (.missing .info)
  | .ok (some raw) => .ok raw

def parse (data : Bytes) : Except DescriptorError Descriptor := do
  let root ← (Bencode.decode data).mapError .malformed
  let announce ← entryAs root .announce .text Value.text?
  let info ← entry root .info
  if info.entries?.isNone then throw (.invalid .info .dictionary)
  let content ← contentOf info
  let raw ← rawInfo data
  return ⟨announce, sha1 raw, content⟩

end Descriptor

inductive LoadError where
  | unreadable (path : String)
  | rejected (path : String) (cause : DescriptorError)

/-- The error and what it was caused by, outermost first. What the system has to say about an
unreadable file is not part of it. -/
def LoadError.chain : LoadError → List String
  | unreadable path => [s!"Failed to read torrent file '{path}'"]
  | rejected path cause => s!"Failed to parse torrent file '{path}'" :: cause.chain

def Descriptor.load (path : String) (data : Option Bytes) : Except LoadError Descriptor :=
  match data with
  | none => .error (.unreadable path)
  | some data => (Descriptor.parse data).mapError (.rejected path)

end Swarm
