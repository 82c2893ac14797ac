import Swarm.Bytes
import Swarm.SystemError
import Swarm.Text.Split

/-!
Directories and files held in memory, under paths with the rules of a Unix file system.

A location is the list of names that lead to it from the top. A path is walked name by name, so a
step up needs the directory that it leaves to exist.
-/

namespace Swarm.Storage

inductive Node where
  | directory
  | file (content : Bytes)
deriving DecidableEq

namespace Path

/-- The names in a path: what stands between slashes, blanks and single points left out. -/
def names (path : String) : List String :=
  ((Text.splitOn '/' path.toList).filter fun n => n != [] && n != ['.']).map String.ofList

/-- What a path says to do, one name or point after the other: what stands between slashes, blanks
left out. -/
def steps (path : String) : List String :=
  ((Text.splitOn '/' path.toList).filter (· != [])).map String.ofList

def endsOpen (path : String) : Bool :=
  match (Text.splitOn '/' path.toList).getLast? with
  | some last => last == [] || last == ['.']
  | none => true

def trimEnd : List Char → List Char
  | '/' :: rest => if rest.isEmpty then ['/'] else trimEnd rest
  | ['.'] => ['.']
  | '.' :: '/' :: rest => trimEnd ('/' :: rest)
  | s => s

/-- A path without its last name; `none` if it has no name. -/
def parent? (path : String) : Option String :=
  let reversed := trimEnd path.toList.reverse
  if reversed.isEmpty ∨ reversed = ['/'] then none
  else
    let front := reversed.dropWhile (· != '/')
    some (String.ofList (trimEnd front).reverse)

def join (directory name : String) : String :=
  if name.startsWith "/" then name
  else if directory.isEmpty ∨ directory.endsWith "/" then directory ++ name
  else s!"{directory}/{name}"

end Path

theorem lookup_filter_of_ne {α β : Type} [BEq α] [LawfulBEq α] {key other : α}
    (apart : key ≠ other) (entries : List (α × β)) :
    (entries.filter (·.1 != other)).lookup key = entries.lookup key := by
  induction entries with
  | nil => rfl
  | cons entry rest ih =>
    by_cases same : entry.1 = other
    · rw [List.filter_cons_of_neg (by simpa using same), ih, List.lookup_cons,
        beq_eq_false_iff_ne.2 (same ▸ apart)]
    · rw [List.filter_cons_of_pos (by simpa using same), List.lookup_cons, List.lookup_cons, ih]

/-- Directories and files by their locations, in a file system that gives no file more than a
certain length. -/
structure Tree where
  nodes : List (List String × Node)
  maxLength : Nat

namespace Tree

def failure (kind : SystemErrorKind) : SystemError := ⟨kind, "<os>"⟩

/-- The longest name that a directory can hold, in octets. -/
def maxNameLength : Nat := 255

def node? (t : Tree) (location : List String) : Option Node :=
  if location.isEmpty then some .directory else t.nodes.lookup location

def put (t : Tree) (location : List String) (node : Node) : Tree :=
  { t with nodes := (location, node) :: t.nodes.filter (·.1 != location) }

theorem node?_put_self (t : Tree) {location : List String} (below : location ≠ [])
    (node : Node) : (t.put location node).node? location = some node := by
  rw [node?, if_neg (mt List.isEmpty_iff.1 below), put, List.lookup_cons_self]

theorem node?_put_of_ne (t : Tree) {location other : List String} (apart : other ≠ location)
    (node : Node) : (t.put location node).node? other = t.node? other := by
  rw [node?, node?, put, List.lookup_cons, beq_eq_false_iff_ne.2 apart]
  exact congrArg _ (lookup_filter_of_ne apart t.nodes)

def isName (name : String) : Bool := name.utf8ByteSize ≤ maxNameLength

/-- The longest path that the system takes, in octets. -/
def maxPathLength : Nat := 4095

def isPath (path : String) : Bool := path.utf8ByteSize ≤ maxPathLength && !path.contains '\x00'

/-- Follows the steps of a path from a location; only the last one may lead to nothing. A point is a
step to where one is, which has to be a directory. -/
def walk (t : Tree) : List String → List String → Except SystemError (List String)
  | location, [] => .ok location
  | location, name :: rest =>
    match t.node? location with
    | none => .error (failure .notFound)
    | some (.file _) => .error (failure .notADirectory)
    | some .directory =>
      if name = "." then walk t location rest
      else if name = ".." then walk t location.dropLast rest
      else if isName name then walk t (location ++ [name]) rest
      else .error (failure .invalidInput)

def locate (t : Tree) (path : String) : Except SystemError (List String) :=
  if isPath path then t.walk [] (Path.steps path) else .error (failure .invalidInput)

def find? (t : Tree) (path : String) : Option Node :=
  match t.locate path with
  | .error _ => none
  | .ok location => t.node? location

def content? (t : Tree) (path : String) : Option Bytes :=
  match t.find? path with
  | some (.file content) => some content
  | _ => none

def makeDirectory (t : Tree) (path : String) : Except SystemError Tree :=
  match t.locate path with
  | .error e => .error e
  | .ok location =>
    match t.node? location with
    | some _ => .error (failure .alreadyExists)
    | none => .ok (t.put location .directory)

def isDirectory (t : Tree) (path : String) : Bool := t.find? path == some .directory

def ensureDirectory (t : Tree) (path : String) : Except SystemError Tree :=
  match t.makeDirectory path with
  | .ok t => .ok t
  | .error e => if t.isDirectory path then .ok t else .error e

def makeDirectories : Nat → String → Tree → Except SystemError Tree
  | 0, _, t => .ok t
  | budget + 1, path, t =>
    if path.isEmpty then .ok t
    else match t.makeDirectory path with
      | .ok t => .ok t
      | .error e =>
        if e.kind = .notFound then
          match Path.parent? path with
          | none => .error e
          | some above =>
            match makeDirectories budget above t with
            | .error e => .error e
            | .ok t => t.ensureDirectory path
        else if t.isDirectory path then .ok t
        else .error e

def createDirectories (t : Tree) (path : String) : Except SystemError Tree :=
  makeDirectories (path.length + 1) path t

/-- Opens a file for writing, an empty one if there is none, and tells its content. -/
def openFile (t : Tree) (path : String) : Except SystemError Bytes :=
  match t.locate path with
  | .error e => .error e
  | .ok location =>
    match t.node? location with
    | some .directory => .error (failure .isADirectory)
    | some (.file content) =>
      if Path.endsOpen path then .error (failure .notADirectory) else .ok content
    | none => if Path.endsOpen path then .error (failure .isADirectory) else .ok []

end Tree

end Swarm.Storage
