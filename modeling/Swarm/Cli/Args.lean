/-!
The arguments of the command line.

Arguments are read from left to right. A value is judged when the next argument is reached, so of
two faults the one that is reached first counts, and a question for help in front of a fault is
answered.
-/

namespace Swarm.Cli

/-- Why arguments are not accepted; a question for help counts as well. -/
inductive ArgsFault where
  | help
  | unknownArgument
  | missingValue
  | invalidValue
  | repeated
  | excessValue
  | missingTorrent
deriving DecidableEq

inductive Setting where
  | outputDir
  | port
  | maxConnections
  | workers
  | pipeline
  | requestTimeout
  | connectTimeout
  | readTimeout
  | reannounce
deriving DecidableEq

inductive Switch where
  | verbose
  | quiet
  | help
deriving DecidableEq

inductive Name where
  | setting (s : Setting)
  | switch (s : Switch)

def Name.ofLong? : List Char → Option Name := fun name =>
  ([("output-dir", .setting .outputDir), ("port", .setting .port),
    ("max-connections", .setting .maxConnections), ("workers", .setting .workers),
    ("pipeline", .setting .pipeline), ("request-timeout", .setting .requestTimeout),
    ("connect-timeout", .setting .connectTimeout), ("read-timeout", .setting .readTimeout),
    ("reannounce", .setting .reannounce), ("verbose", .switch .verbose),
    ("quiet", .switch .quiet), ("help", .switch .help)] : List (String × Name)).lookup
      (String.ofList name)

def Name.ofShort? : Char → Option Name
  | 'o' => some (.setting .outputDir)
  | 'p' => some (.setting .port)
  | 'm' => some (.setting .maxConnections)
  | 'w' => some (.setting .workers)
  | 'v' => some (.switch .verbose)
  | 'q' => some (.switch .quiet)
  | 'h' => some (.switch .help)
  | _ => none

structure Args where
  torrent : String
  outputDir : Option String
  port : Nat
  maxConnections : Nat
  workers : Nat
  pipeline : Nat
  /-- In seconds, like the three after it. -/
  requestTimeout : Nat
  connectTimeout : Nat
  readTimeout : Nat
  reannounce : Nat
  verbose : Bool
  quiet : Bool
deriving DecidableEq

inductive LogLevel where
  | error
  | info
  | debug
deriving DecidableEq

/-- Verbose wins over quiet. -/
def Args.logLevel (a : Args) : LogLevel :=
  if a.verbose then .debug else if a.quiet then .error else .info

structure Draft where
  torrent : Option String
  outputDir : Option String
  numbers : List (Setting × Nat)
  switches : List Switch

inductive Pending where
  | nothing
  | awaiting (s : Setting)
  | value (s : Setting) (text : List Char)
  | torrent (text : List Char)

structure Scan where
  draft : Draft
  pending : Pending
  /-- Whether everything from here on is a torrent file. -/
  literal : Bool
  named : Bool

namespace Scan

def start : Scan := ⟨⟨none, none, [], []⟩, .nothing, false, false⟩

def digits? (s : List Char) : Option Nat :=
  if s.isEmpty then none
  else if s.all Char.isDigit then some (s.foldl (fun n c => 10 * n + (c.toNat - 48)) 0)
  else none

/-- The value of an option that takes a number: digits with an optional plus sign; a port may be
written as minus zero as well. -/
def number? (s : Setting) (text : List Char) : Option Nat :=
  let bound := if s = Setting.port then UInt16.size else UInt64.size
  let value := match text with
    | '+' :: digits => digits? digits
    | '-' :: digits => if s = Setting.port then (digits? digits).filter (· == 0) else none
    | digits => digits? digits
  value.filter (· < bound)

def keep (d : Draft) (s : Setting) (text : List Char) : Except ArgsFault Draft :=
  if s = Setting.outputDir then
    if d.outputDir.isSome then .error .repeated
    else if text.isEmpty then .error .missingValue
    else .ok { d with outputDir := some (String.ofList text) }
  else if (d.numbers.lookup s).isSome then .error .repeated
  else match number? s text with
    | none => .error .invalidValue
    | some n => .ok { d with numbers := (s, n) :: d.numbers }

def settle (scan : Scan) : Except ArgsFault Scan :=
  match scan.pending with
  | .nothing => .ok scan
  | .awaiting _ => .error .missingValue
  | .value s text => (keep scan.draft s text).map fun d => { scan with draft := d, pending := .nothing }
  | .torrent text =>
    if text.isEmpty then .error .missingValue
    else .ok { scan with
      draft := { scan.draft with torrent := some (String.ofList text) }, pending := .nothing }

def switch (scan : Scan) (s : Switch) : Except ArgsFault Scan := do
  let scan ← scan.settle
  if s = Switch.help then throw .help
  if scan.draft.switches.contains s then throw .repeated
  return { scan with draft := { scan.draft with switches := s :: scan.draft.switches } }

def setting (scan : Scan) (s : Setting) (attached : Option (List Char)) : Except ArgsFault Scan := do
  let scan ← scan.settle
  match attached with
  | none => return { scan with pending := .awaiting s }
  | some text => return { scan with draft := ← keep scan.draft s text }

def long (scan : Scan) (text : List Char) : Except ArgsFault Scan :=
  let name := text.takeWhile (· != '=')
  let attached := match text.drop name.length with
    | [] => none
    | _ :: value => some value
  match Name.ofLong? name with
  | none => .error .unknownArgument
  | some (.setting s) => scan.setting s attached
  | some (.switch s) => if attached.isSome then .error .excessValue else scan.switch s

/-- Takes options by their short names; one that takes a value takes all that follows it. -/
def short (scan : Scan) : List Char → Except ArgsFault Scan
  | [] => .ok scan
  | c :: rest =>
    match Name.ofShort? c with
    | none => .error .unknownArgument
    | some (.setting s) =>
      scan.setting s (match rest with
        | [] => none
        | '=' :: value => some value
        | value => some value)
    | some (.switch s) => do (← scan.switch s).short rest

def plain (scan : Scan) (text : List Char) : Except ArgsFault Scan :=
  match scan.literal, scan.pending with
  | false, .awaiting s => .ok { scan with pending := .value s text }
  | _, _ =>
    if scan.named then .error .unknownArgument
    else do return { (← scan.settle) with pending := .torrent text, named := true }

def take (scan : Scan) (argument : String) : Except ArgsFault Scan :=
  if scan.literal then scan.plain argument.toList
  else match argument.toList with
    | ['-', '-'] => .ok { scan with literal := true }
    | '-' :: '-' :: text => scan.long text
    | '-' :: c :: text => scan.short (c :: text)
    | text => scan.plain text

def finish (scan : Scan) : Except ArgsFault Args := do
  let scan ← scan.settle
  let number (s : Setting) (standard : Nat) : Nat := (scan.draft.numbers.lookup s).getD standard
  match scan.draft.torrent with
  | none => throw .missingTorrent
  | some torrent =>
    return {
      torrent
      outputDir := scan.draft.outputDir
      port := number .port 6881
      maxConnections := number .maxConnections 50
      workers := number .workers 8
      pipeline := number .pipeline 1
      requestTimeout := number .requestTimeout 10
      connectTimeout := number .connectTimeout 10
      readTimeout := number .readTimeout 120
      reannounce := number .reannounce 90
      verbose := scan.draft.switches.contains .verbose
      quiet := scan.draft.switches.contains .quiet }

end Scan

def Args.parse (arguments : List String) : Except ArgsFault Args := do
  (← arguments.foldlM Scan.take Scan.start).finish

end Swarm.Cli
