import Swarm.Cli.Args
import Swarm.Duration
import Swarm.Fault

/-!
The settings of a download: what the arguments ask for, with every gap filled, and the checks that
they have to pass.
-/

namespace Swarm.Cli

structure Config where
  outputDir : String
  port : Nat
  maxConnections : Nat
  workers : Nat
  pipeline : Nat
  requestTimeout : Duration
  connectTimeout : Duration
  readTimeout : Duration
  reannounce : Duration
  verbose : Bool
  quiet : Bool
deriving DecidableEq

namespace Config

def standardOutputDir : String := "./downloads"

def tick : Duration := .ofSeconds 1

def shutdownGrace : Duration := .ofSeconds 5

def ofArgs (a : Args) : Config where
  outputDir := a.outputDir.getD standardOutputDir
  port := a.port
  maxConnections := a.maxConnections
  workers := a.workers
  pipeline := a.pipeline
  requestTimeout := .ofSeconds a.requestTimeout
  connectTimeout := .ofSeconds a.connectTimeout
  readTimeout := .ofSeconds a.readTimeout
  reannounce := .ofSeconds a.reannounce
  verbose := a.verbose
  quiet := a.quiet

inductive Defect where
  | portZero
  | countZero (setting : String)
  | timeoutZero (setting : String)
  | noOutputDir
deriving DecidableEq

def Defect.fault : Defect → Fault
  | portZero => ⟨.config, "Port cannot be 0", some "port", none⟩
  | countZero setting => ⟨.config, s!"{setting} must be at least 1", some setting, none⟩
  | timeoutZero setting => ⟨.config, s!"{setting} must be positive", some setting, none⟩
  | noOutputDir => ⟨.config, "output_dir cannot be empty", some "output_dir", none⟩

def counts (c : Config) : List (Nat × String) :=
  [(c.maxConnections, "max_connections"), (c.workers, "workers"), (c.pipeline, "pipeline")]

def timeouts (c : Config) : List (Duration × String) :=
  [(c.requestTimeout, "request_timeout"), (c.connectTimeout, "connect_timeout"),
    (c.readTimeout, "read_timeout"), (c.reannounce, "reannounce")]

def defect? (c : Config) : Option Defect :=
  if c.port = 0 then some .portZero
  else match c.counts.find? (·.1 == 0) with
    | some (_, setting) => some (.countZero setting)
    | none =>
      match c.timeouts.find? (·.1 == .ofSeconds 0) with
      | some (_, setting) => some (.timeoutZero setting)
      | none => if c.outputDir.isEmpty then some .noOutputDir else none

end Config

end Swarm.Cli
