import Swarm.Cli.Stats

/-!
What is printed while a download runs and when it ends. Every text first clears the line that the
cursor is on; in quiet mode only errors are printed.
-/

namespace Swarm.Cli

structure Output where
  standard : String
  error : String
deriving DecidableEq

namespace Display

def clearLine : String := "\r\x1b[2K"

def nothing : Output := ⟨"", ""⟩

def progress (quiet : Bool) (s : Stats) : Except Unrepresentable Output :=
  if quiet then .ok nothing else s.line.map fun line => ⟨clearLine ++ line, ""⟩

def summary (s : Stats) (path : String) (elapsed : Duration) : List String :=
  ["Download complete", s!"  Saved to: {path}", s!"  Size: {amountText s.total}",
    s!"  Elapsed Time: {elapsed.text}"]

def complete (quiet : Bool) (s : Stats) (path : String) (elapsed : Duration) :
    Except Unrepresentable Output :=
  if quiet then .ok nothing
  else s.line.map fun line =>
    ⟨clearLine ++ String.join ((line :: summary s path elapsed).map (· ++ "\n")), ""⟩

def status (quiet : Bool) (text : String) : Output :=
  if quiet then nothing else ⟨clearLine ++ text ++ "\n", ""⟩

def error (text : String) : Output := ⟨"", clearLine ++ "Error: " ++ text ++ "\n"⟩

end Display

end Swarm.Cli
