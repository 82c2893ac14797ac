import Swarm.Peer.Session

/-!
The other side of a connection, held in memory.

It has octets ready to be read, an end that follows them, and may answer what is written to it as a
seeder does. All that is written is recorded, each time with the number of octets read before.
-/

namespace Swarm.Scenario

inductive Ending where
  | closes
  | hangs
  | resets
deriving DecidableEq

inductive Inbound where
  | octets (b : Bytes)
  /-- No octets: a registration is ended by someone else when the reader comes here. -/
  | drop (peer : PeerId)

structure Seeder where
  infoHash : Digest
  peerId : PeerId
  bits : Bytes
  /-- How many blocks are still spoiled before they are sent. -/
  corrupt : Nat
  /-- How many blocks are still sent, if that is limited. -/
  limit : Option Nat
  pieceLength : Nat
  content : Bytes
  greeted : Bool

namespace Seeder

def block (s : Seeder) (index start length : Nat) : Bytes :=
  (s.content.drop (index * s.pieceLength + start)).take length

def pieceMessage (s : Seeder) (index start length : UInt32) : Message :=
  .piece index start (s.block index.toNat start.toNat length.toNat)

def spoil : Message → Message
  | .piece index start (first :: rest) => .piece index start ((255 - first) :: rest)
  | m => m

def reply (s : Seeder) : Message → Bytes × Seeder
  | .interested => (Message.unchoke.frame, s)
  | .request index start length =>
    if s.limit = some 0 then ([], s)
    else
      let m := s.pieceMessage index start length
      let m := if 0 < s.corrupt then spoil m else m
      (m.frame, { s with corrupt := s.corrupt - 1, limit := s.limit.map (· - 1) })
  | _ => ([], s)

/-- Answers what is written: the first time with handshake and pieces, then by the message. -/
def answer (s : Seeder) (written : Bytes) : Bytes × Seeder :=
  if s.greeted then
    match Message.ofFrame written with
    | .error _ => ([], s)
    | .ok m => s.reply m
  else
    ((Handshake.plain s.infoHash s.peerId).encode ++ (Message.bitfield s.bits).frame,
      { s with greeted := true })

end Seeder

structure Remote where
  inbox : List Inbound
  ending : Ending
  seeder : Option Seeder
  room : Option Nat
  readCount : Nat
  /-- What was written, the latest first, with how many octets had been read before. -/
  writes : List (Nat × Bytes)

namespace Remote

/-- What a read comes to: what was read, the latest part first, how much is still wanted, what is
left, and the transfer. -/
structure Gathered where
  parts : List Bytes
  wanted : Nat
  inbox : List Inbound
  transfer : Transfer

def gather : List Bytes → Nat → List Inbound → Transfer → Gathered
  | parts, 0, inbox, t => ⟨parts, 0, inbox, t⟩
  | parts, wanted, [], t => ⟨parts, wanted, [], t⟩
  | parts, wanted, .drop peer :: rest, t => gather parts wanted rest (t.unregister peer).2
  | parts, wanted, .octets b :: rest, t =>
    let head := b.take wanted
    if head.length < wanted then gather (head :: parts) (wanted - head.length) rest t
    else ⟨head :: parts, 0, .octets (b.drop wanted) :: rest, t⟩

def fault : Ending → ReadFault
  | .closes => .system .earlyEnd
  | .hangs => .timedOut
  | .resets => .system ⟨.connectionReset, "reset by script"⟩

def read : Reader (Remote × Transfer) := fun n (r, t) =>
  let g := gather [] n r.inbox t
  let r := { r with inbox := g.inbox, readCount := r.readCount + (n - g.wanted) }
  if g.wanted = 0 then (.ok g.parts.reverse.flatten, (r, g.transfer))
  else (.error (fault r.ending), (r, g.transfer))

def write (r : Remote) (b : Bytes) : Option SystemError × Remote :=
  if r.room.any (· < b.length) then (some ⟨.brokenPipe, "closed by script"⟩, r)
  else
    let r := { r with room := r.room.map (· - b.length), writes := (r.readCount, b) :: r.writes }
    match r.seeder with
    | none => (none, r)
    | some s =>
      let (answer, s) := s.answer b
      (none, { r with seeder := some s, inbox := r.inbox ++ [.octets answer] })

def log (r : Remote) : List (Nat × Bytes) := r.writes.reverse

end Remote

structure Connection where
  session : Session
  remote : Remote

namespace Connection

def step (now : Nat) (c : Connection) (t : Transfer) : Connection × Transfer :=
  match c.session.want with
  | .nothing => (c, t)
  | .send octets =>
    let (failure, remote) := c.remote.write octets
    (⟨c.session.sent failure, remote⟩, t)
  | .handshake =>
    let (reply, remote, t) := Reader.handshake Remote.read (c.remote, t)
    (⟨c.session.greeted reply, remote⟩, t)
  | .message =>
    let (reply, remote, t) := Reader.message Remote.read (c.remote, t)
    (⟨c.session.received reply, remote⟩, t)
  | .transfer =>
    let (session, t) := c.session.turn t now .smooth
    (⟨session, c.remote⟩, t)

def run (now : Nat) : Nat → Connection → Transfer → Connection × Transfer
  | 0, c, t => (c, t)
  | fuel + 1, c, t =>
    if c.session.result?.isSome then (c, t)
    else
      let (c, t) := c.step now t
      run now fuel c t

def standardFuel : Nat := 1 <<< 40

end Connection

end Swarm.Scenario
