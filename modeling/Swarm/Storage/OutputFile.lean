import Swarm.Fault
import Swarm.Storage.Tree

/-!
The file that a download is written to: a sequence of octets of fixed length, of which ranges are
replaced. A range that does not lie inside the file is refused.

Main statements: the file has its length (`length_content`), and replacing a range replaces just
that range (`content_put`, `getElem?_overwrite`).
-/

namespace Swarm.Storage

inductive Action where
  | createOutputDirectory
  | createDirectory
  | createFile
  | setLength
  | seek
  | write
  | flush
  | sync
deriving DecidableEq

def Action.failed : Action → String
  | createOutputDirectory => "Failed to create output directory"
  | createDirectory => "Failed to create directory"
  | createFile => "Failed to create file"
  | setLength => "Failed to set file length"
  | seek => "Failed to seek in file"
  | write => "Failed to write to file"
  | flush => "Failed to flush file"
  | sync => "Failed to sync file"

inductive StorageError where
  | pastEnd (path : String) (offset count length : Nat)
  | system (action : Action) (path : String) (cause : SystemError)
deriving DecidableEq

def StorageError.fault : StorageError → Fault
  | pastEnd path offset count length =>
    ⟨.storage, "Write past end of file", some path,
      some s!"offset {offset} + {count} bytes > {length}"⟩
  | system action path cause => ⟨.storage, action.failed, some path, some cause.text⟩

structure DiskOutcome where
  seek : Option SystemError
  /-- The error of writing, with how many octets had been written before it. -/
  write : Option (SystemError × Nat)
  flush : Option SystemError
  sync : Option SystemError

def DiskOutcome.smooth : DiskOutcome := ⟨none, none, none, none⟩

/-- The file that a download is written to: its octets up to some place, behind which all are zero
as far as its length reaches. -/
structure OutputFile where
  path : String
  length : Nat
  stored : Bytes

namespace OutputFile

def resize (length : Nat) (content : Bytes) : Bytes :=
  content.take length ++ List.replicate (length - content.length) 0

theorem length_resize (length : Nat) (content : Bytes) :
    (resize length content).length = length := by
  simp only [resize, List.length_append, List.length_take, List.length_replicate]
  omega

theorem getElem?_resize (length : Nat) (content : Bytes) (i : Nat) :
    (resize length content)[i]? = if i < length then some (content[i]?.getD 0) else none := by
  rw [resize, List.getElem?_append, List.length_take]
  split
  next front =>
    rw [List.getElem?_take_of_lt (by omega), if_pos (by omega),
      List.getElem?_eq_getElem (by omega), Option.getD_some]
  next back =>
    rw [List.getElem?_replicate]
    by_cases inside : i < length
    · rw [if_pos inside, if_pos (by omega), List.getElem?_eq_none (by omega), Option.getD_none]
    · rw [if_neg inside, if_neg (by omega)]

def content (f : OutputFile) : Bytes := resize f.length f.stored

theorem length_content (f : OutputFile) : f.content.length = f.length := length_resize ..

/-- The output file of a given length, at a path where there was a file with some content before
or, with `content` empty, none. -/
def ofContent (path : String) (length : Nat) (content : Bytes) : OutputFile :=
  ⟨path, length, content⟩

/-- The content with a range replaced, zeros filling it up to where the range starts. -/
def overwrite (content : Bytes) (offset : Nat) (data : Bytes) : Bytes :=
  resize offset content ++ (data ++ content.drop (offset + data.length))

theorem getElem?_overwrite (content : Bytes) (offset : Nat) (data : Bytes) (i : Nat) :
    (overwrite content offset data)[i]? =
      if i < offset then some (content[i]?.getD 0)
      else if i < offset + data.length then data[i - offset]?
      else content[i]? := by
  rw [overwrite, List.getElem?_append, length_resize, getElem?_resize]
  by_cases front : i < offset
  · rw [if_pos front, if_pos front, if_pos front]
  · rw [if_neg front, if_neg front, List.getElem?_append]
    by_cases inside : i < offset + data.length
    · rw [if_pos inside, if_pos (by omega)]
    · rw [if_neg inside, if_neg (by omega), List.getElem?_drop]
      congr 1
      omega

def holds (f : OutputFile) (offset count : Nat) : Bool := offset + count ≤ f.length

def put (f : OutputFile) (offset : Nat) (data : Bytes) : OutputFile :=
  { f with stored := overwrite f.stored offset data }

/-- A range that lies inside the file is replaced in all octets of it. -/
theorem content_put (f : OutputFile) {offset : Nat} {data : Bytes}
    (inside : f.holds offset data.length) :
    (f.put offset data).content = overwrite f.content offset data := by
  have room : offset + data.length ≤ f.length := by simpa [holds] using inside
  apply List.ext_getElem?
  intro i
  simp only [content, put]
  rw [getElem?_resize, getElem?_overwrite, getElem?_overwrite, getElem?_resize]
  by_cases front : i < offset
  · have below : i < f.length := by omega
    simp only [front, below, if_true, Option.getD_some]
  · by_cases middle : i < offset + data.length
    · have below : i < f.length := by omega
      have known : data[i - offset]? = some data[i - offset] :=
        List.getElem?_eq_getElem (by omega)
      simp only [front, middle, below, if_true, if_false, known, Option.getD_some]
    · simp only [front, middle, if_false]

def writeAt (f : OutputFile) (disk : DiskOutcome) (offset : Nat) (data : Bytes) :
    Except StorageError Unit × OutputFile :=
  if ¬ f.holds offset data.length then
    (.error (.pastEnd f.path offset data.length f.length), f)
  else match disk.seek with
    | some e => (.error (.system .seek f.path e), f)
    | none =>
      match disk.write with
      | some (e, written) => (.error (.system .write f.path e), f.put offset (data.take written))
      | none =>
        match disk.flush with
        | some e => (.error (.system .flush f.path e), f.put offset data)
        | none => (.ok (), f.put offset data)

def sync (f : OutputFile) (disk : DiskOutcome) : Except StorageError Unit :=
  match disk.sync with
  | some e => .error (.system .sync f.path e)
  | none => .ok ()

/-- Creates the output file in a tree, with the directories above it. What the file held before
stays as far as the new length reaches. -/
def create (t : Tree) (path : String) (length : Nat) : Except StorageError OutputFile := do
  let t ← match Path.parent? path with
    | none => pure t
    | some above =>
      if above.isEmpty ∨ (t.find? above).isSome then pure t
      else (t.createDirectories above).mapError (.system .createDirectory above)
  let content ← (t.openFile path).mapError (.system .createFile path)
  if length > t.maxLength then
    throw (.system .setLength path (Tree.failure .invalidInput))
  return ofContent path length content

end OutputFile

end Swarm.Storage
