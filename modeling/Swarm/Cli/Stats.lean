import Swarm.Duration
import Swarm.Text.Rounding
import Swarm.Transfer.Snapshot

/-!
The state of a download as it is shown: amounts, speed, time left, and the line that joins them.
-/

namespace Swarm.Cli

def units : List String := ["KB", "MB", "GB", "TB"]

/-- An amount in the largest of the remaining units that leaves at least one of it. -/
def scaleAmount : Float → String → List String → String
  | size, unit, [] => s!"{Rounding.text 2 size} {unit}"
  | size, unit, next :: larger =>
    if size ≥ 1024.0 then scaleAmount (size / 1024.0) next larger
    else s!"{Rounding.text 2 size} {unit}"

def amountText (octets : UInt64) : String := scaleAmount octets.toFloat "B" units

/-- A speed in octets a second, the fraction dropped. -/
def speedText (speed : Float) : String := amountText speed.toUInt64 ++ "/s"

inductive Unrepresentable where
  | timeLeft
deriving DecidableEq

/-- The time that the rest takes at a speed; `none` if nothing is left or nothing moves. -/
def timeLeft (downloaded total : UInt64) (speed : Float) :
    Except Unrepresentable (Option Duration) :=
  if speed ≤ 0.0 || downloaded ≥ total then .ok none
  else match Duration.ofFloat? ((total - downloaded).toFloat / speed) with
    | none => .error .timeLeft
    | some d => .ok (some d)

structure Stats where
  downloaded : UInt64
  total : UInt64
  /-- Octets a second. -/
  speed : Float
  peers : Nat
  maxPeers : Nat
  finishedPieces : Nat
  totalPieces : Nat
  /-- The part that is done, from 0 to 1. -/
  progress : Float

namespace Stats

def empty : Stats := ⟨0, 0, 0.0, 0, 0, 0, 0, 0.0⟩

def same (x y : Stats) : Bool :=
  x.downloaded == y.downloaded && x.total == y.total && x.speed == y.speed && x.peers == y.peers &&
    x.maxPeers == y.maxPeers && x.finishedPieces == y.finishedPieces &&
    x.totalPieces == y.totalPieces && x.progress == y.progress

def ofSnapshot (s : Snapshot) (before : UInt64) (elapsed : Duration) : Stats :=
  let gained := if s.downloaded ≥ before then s.downloaded - before else 0
  let seconds := elapsed.toFloat
  { downloaded := s.downloaded, total := s.total
    speed := if seconds > 0.0 then gained.toFloat / seconds else 0.0
    peers := s.peers, maxPeers := s.maxPeers, finishedPieces := s.finishedPieces
    totalPieces := s.totalPieces, progress := s.progress }

def barWidth : Nat := 40

def bar (head : Nat) : String :=
  String.ofList ((List.range barWidth).map fun i =>
    if i < head then '=' else if i = head then '>' else ' ')

def clamp (x : Float) : Float := if x < 0.0 then 0.0 else if x > 1.0 then 1.0 else x

def line (s : Stats) : Except Unrepresentable String := do
  let progress := clamp s.progress
  let head := (progress * barWidth.toFloat).toUInt64.toNat
  let left := match ← timeLeft s.downloaded s.total s.speed with
    | none => "∞"
    | some d => d.text
  return s!"[{bar head}] {Rounding.text 1 (progress * 100.0)}% | {amountText s.downloaded} / " ++
    s!"{amountText s.total} | {speedText s.speed} | Peers: {s.peers}/{s.maxPeers} | " ++
    s!"Pieces: {s.finishedPieces}/{s.totalPieces} | ETA: {left}"

end Stats

end Swarm.Cli
