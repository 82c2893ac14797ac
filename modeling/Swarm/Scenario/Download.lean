import Swarm.Cli.Display
import Swarm.Client.OutputPath
import Swarm.Client.Supervision
import Swarm.Scenario.Network
import Swarm.Scenario.Tracker

/-!
A whole download in a network held in memory: files, tracker, peers and clock.

The supervisor and the workers are tasks. One of them runs at a time, until it has to wait, and one
has the transfer at a time; the others get it in the order in which they came for it. A worker that
has put a piece together keeps the transfer until the piece is written, while the others run. The
supervisor looks at the download at every tick, and may announce then.

The clock stands still while a task can run or a piece is being written. When all tasks wait for
something else, it moves on to the next tick.
-/

namespace Swarm.Scenario

open Client (Announcing Supervisor DownloadError)
open Storage (OutputFile Tree)

structure Plan where
  descriptor : Descriptor
  outputDir : String
  port : UInt16
  maxPeers : Nat
  workers : Nat
  context : SessionContext
  /-- In nanoseconds, like the two after it. -/
  requestTimeout : Nat
  reannounce : Nat
  tick : Nat
  quiet : Bool

structure Result where
  outcome : Except DownloadError String
  content : Option Bytes
  tracker : Tracker
  /-- What was printed at the end, line by line, without how long it took. -/
  summary : List String

inductive Task where
  | supervisor
  | worker (i : Nat)
deriving DecidableEq

inductive Watch where
  | sleep
  | look (idle : Bool)
  | announce (began : Nat) (a : Announcing)
  | over (outcome : Except DownloadError Unit)

structure Holder where
  task : Task
  /-- Whether it has had its turn and waits until its piece is written. -/
  writes : Bool
deriving DecidableEq

structure Run where
  supervisor : Supervisor
  watch : Watch
  agents : List Agent
  world : World
  tracker : Tracker
  /-- The tasks that can run, the first of which does. -/
  ready : List Task
  holder : Option Holder
  /-- The tasks that wait for the transfer, in the order in which they came. -/
  waiting : List Task

namespace Run

def wantsTransfer (r : Run) : Task → Bool
  | .supervisor =>
    match r.watch with
    | .look _ | .announce .. => true
    | .sleep | .over _ => false
  | .worker i => r.agents[i]?.any fun a => a.wantsTransfer r.world.now

def isInvolved (r : Run) (task : Task) : Bool :=
  r.waiting.contains task || r.holder.any (·.task == task)

def release (r : Run) : Run :=
  match r.waiting with
  | [] => { r with holder := none }
  | task :: rest =>
    { r with holder := some ⟨task, false⟩, waiting := rest, ready := r.ready ++ [task] }

def block (r : Run) : Run := { r with ready := r.ready.tail }

def queueUp (r : Run) (task : Task) : Run := { r.block with waiting := r.waiting ++ [task] }

/-- The supervisor sleeps, and the workers see whether something has changed. -/
def doze (r : Run) : Run :=
  let woken := ((List.range r.agents.length).map Task.worker).filter fun task =>
    !(r.isInvolved task || r.ready.contains task)
  { r.block with watch := .sleep, ready := r.ready.tail ++ woken }

/-- A step of a worker. If that has put a piece together, the worker keeps the transfer. -/
def work (context : SessionContext) (r : Run) (i : Nat) : Run :=
  match r.agents[i]?.bind (·.step context r.world) with
  | none => r.block
  | some (agent, world) =>
    let next := { r with agents := r.agents.set i agent, world := world }
    if r.world.transfer.downloaded < world.transfer.downloaded then
      { next.block with holder := some ⟨.worker i, true⟩ }
    else if r.wantsTransfer (.worker i) then next.release
    else next

end Run

namespace Plan

def announce (p : Plan) (left downloaded : Nat) (tracker : Tracker) :
    Except Swarm.Tracker.TrackerError Swarm.Tracker.Response × Tracker :=
  Swarm.Tracker.announce Tracker.fetch p.descriptor.announce
    (Client.report p.descriptor p.context.ownId p.port left downloaded) tracker

def roundFuel : Nat := 1 <<< 40

def send (p : Plan) (r : Run) (began left downloaded : Nat) : Run :=
  let (answer, tracker) := p.announce left downloaded r.tracker
  let (supervisor, peers) := r.supervisor.answered began answer
  let queue := match peers with
    | none => r.world.queue
    | some peers => r.world.queue.refill peers
  { r with
    supervisor := supervisor, tracker := tracker
    world := { r.world with queue := queue, announces := r.world.announces + 1 } }

def watch (p : Plan) (r : Run) : Run :=
  match r.watch with
  | .look idle =>
    let sight : Client.Sight :=
      ⟨r.world.now, r.world.transfer.isComplete, idle, r.world.queue.isEmpty⟩
    match r.supervisor.decide sight with
    | .finished => { r with watch := .over (.ok ()) }
    | .abandoned => { r with watch := .over (.error .abandoned) }
    | .wait => r.release.doze
    | .announce => { r.release with watch := .announce r.world.now .begun }
  | .announce began a =>
    match a.read r.world.transfer with
    | .bothRead left downloaded => (p.send r.release began left downloaded).doze
    | a => { r.release with watch := .announce began a }
  | .sleep | .over _ => r.block

/-- What happens when all tasks wait: a piece that is being written is on disk, and if there is
none, the supervisor wakes up at the next tick. -/
def wake (p : Plan) (r : Run) : Run :=
  match r.holder with
  | some holder => { r with ready := [holder.task] }
  | none =>
    { r with
      watch := .look (r.agents.all fun a => a.worker.duty == .done)
      world := { r.world with now := r.world.now + p.tick }
      ready := [.supervisor] }

def step (p : Plan) (r : Run) : Run :=
  match r.ready with
  | [] => p.wake r
  | task :: _ =>
    if r.holder = some ⟨task, true⟩ then r.release
    else if r.wantsTransfer task && r.holder.any (· != ⟨task, false⟩) then r.queueUp task
    else match task with
      | .supervisor => p.watch r
      | .worker i => r.work p.context i

def supervise (p : Plan) : Nat → Run → Except DownloadError Unit × Run
  | 0, r => (.error .abandoned, r)
  | fuel + 1, r =>
    match r.watch with
    | .over outcome => (outcome, r)
    | _ => supervise p fuel (p.step r)

def summary (p : Plan) (path : String) (t : Transfer) : List String :=
  if p.quiet then []
  else (Cli.Display.summary (.ofSnapshot t.snapshot 0 (.ofSeconds 0)) path (.ofSeconds 0)).dropLast

def work (p : Plan) (path : String) (t : Transfer) (first : Swarm.Tracker.Response)
    (network : Network) (tracker : Tracker) : Result :=
  let world : World := ⟨t, Queue.empty.refill first.peers, network, 1, 0, []⟩
  let run : Run := {
    supervisor := ⟨0, first.interval, p.reannounce⟩
    watch := .look (p.workers == 0)
    agents := List.replicate p.workers .new
    world := world, tracker := tracker
    ready := [.supervisor], holder := none, waiting := [] }
  match p.supervise roundFuel run with
  | (.error e, r) => ⟨.error e, none, r.tracker, []⟩
  | (.ok (), r) =>
    ⟨.ok path, some r.world.transfer.file.content, r.tracker, p.summary path r.world.transfer⟩

def prepare (p : Plan) (tree : Tree) : Except Storage.StorageError (String × Transfer) := do
  let tree ← (tree.createDirectories p.outputDir).mapError
    (.system .createOutputDirectory p.outputDir)
  let path := Client.outputPath p.outputDir p.descriptor
  let file ← OutputFile.create tree path p.descriptor.content.length
  return (path, Transfer.start p.descriptor.content p.maxPeers p.requestTimeout file)

def run (p : Plan) (tree : Tree) (network : Network) (tracker : Tracker) : Result :=
  match p.prepare tree with
  | .error e => ⟨.error (.storage e), none, tracker, []⟩
  | .ok (path, t) =>
    match p.announce t.bytesLeft t.downloaded tracker with
    | (.error e, tracker) => ⟨.error (.tracker e), none, tracker, []⟩
    | (.ok first, tracker) =>
      if first.peers.isEmpty then ⟨.error .noPeers, none, tracker, []⟩
      else p.work path t first network tracker

end Plan

end Swarm.Scenario
