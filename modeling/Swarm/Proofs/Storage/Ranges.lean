import Mathlib.Data.List.Basic
import Swarm.Storage.OutputFile

/-!
Ranges of the output file: what reading one gives after another was written.

A write reaches no octet outside its range, also if the system gives up in the middle of it. A write
that the system carries out leaves exactly the new octets in its range.
-/

namespace Swarm.Storage

/-- The system carries out a write. Nothing is said of a sync that may follow it. -/
structure DiskOutcome.Writes (disk : DiskOutcome) : Prop where
  seek : disk.seek = none
  write : disk.write = none
  flush : disk.flush = none

theorem DiskOutcome.writes_smooth : DiskOutcome.smooth.Writes := ⟨rfl, rfl, rfl⟩

namespace OutputFile

def range (f : OutputFile) (offset count : Nat) : Bytes := (f.content.drop offset).take count

theorem range_congr {f g : OutputFile} {offset count : Nat}
    (agree : ∀ i, offset ≤ i → i < offset + count → f.content[i]? = g.content[i]?) :
    f.range offset count = g.range offset count := by
  apply List.ext_getElem?
  intro i
  simp only [range, List.getElem?_take, List.getElem?_drop]
  by_cases inside : i < count
  · rw [if_pos inside, if_pos inside]
    exact agree (offset + i) (by omega) (by omega)
  · rw [if_neg inside, if_neg inside]

theorem range_put_self {f : OutputFile} {offset : Nat} {data : Bytes}
    (inside : f.holds offset data.length) :
    (f.put offset data).range offset data.length = data := by
  apply List.ext_getElem?
  intro i
  simp only [range, content_put f inside, List.getElem?_take, List.getElem?_drop,
    getElem?_overwrite]
  by_cases here : i < data.length
  · rw [if_pos here, if_neg (by omega), if_pos (by omega), Nat.add_sub_cancel_left]
  · rw [if_neg here, List.getElem?_eq_none (by omega)]

theorem content_put_eq {f : OutputFile} {offset : Nat} {data : Bytes}
    (inside : offset + data.length ≤ f.length) : (f.put offset data).content =
      f.content.take offset ++ data ++ f.content.drop (offset + data.length) := by
  have reach : offset ≤ f.content.length := by
    rw [length_content]
    omega
  rw [content_put f (decide_eq_true inside), overwrite, resize, Nat.sub_eq_zero_of_le reach,
    List.replicate_zero, List.append_nil, List.append_assoc]

theorem range_put_apart {f : OutputFile} {offset start count : Nat} {data : Bytes}
    (inside : f.holds offset data.length)
    (apart : start + count ≤ offset ∨ offset + data.length ≤ start) :
    (f.put offset data).range start count = f.range start count := by
  apply range_congr
  intro i first last
  rw [content_put f inside, getElem?_overwrite]
  have room : offset + data.length ≤ f.length := by simpa [holds] using inside
  by_cases front : i < offset
  · have below : i < f.content.length := by rw [length_content]; omega
    rw [if_pos front, List.getElem?_eq_getElem below, Option.getD_some]
  · rw [if_neg front, if_neg (by omega)]

/-- A write that is answered with success was inside the file and replaced its range. -/
theorem writeAt_eq_ok {f g : OutputFile} {disk : DiskOutcome} {offset : Nat} {data : Bytes}
    (written : f.writeAt disk offset data = (.ok (), g)) :
    f.holds offset data.length ∧ g = f.put offset data := by
  unfold writeAt at written
  split at written
  next => cases written
  next inside =>
    refine ⟨not_not.1 inside, ?_⟩
    cases seek : disk.seek with
    | some e => rw [seek] at written; cases written
    | none =>
      cases write : disk.write with
      | some cut => rw [seek, write] at written; cases written
      | none =>
        cases flush : disk.flush with
        | some e => rw [seek, write, flush] at written; cases written
        | none =>
          rw [seek, write, flush] at written
          cases written
          rfl

/-- A write fails because it reaches past the end of the file, or because the system does not carry
it out. -/
theorem writeAt_eq_error {f g : OutputFile} {disk : DiskOutcome} {offset : Nat} {data : Bytes}
    {e : StorageError} (failed : f.writeAt disk offset data = (.error e, g)) :
    (¬ f.holds offset data.length ∧ e = .pastEnd f.path offset data.length f.length) ∨
      ∃ action cause, action ≠ .sync ∧ e = .system action f.path cause := by
  unfold writeAt at failed
  split at failed
  next outside =>
    cases failed
    exact Or.inl ⟨outside, rfl⟩
  next =>
    right
    cases seek : disk.seek with
    | some cause =>
      rw [seek] at failed
      cases failed
      exact ⟨.seek, cause, nofun, rfl⟩
    | none =>
      cases write : disk.write with
      | some cut =>
        rw [seek, write] at failed
        cases failed
        exact ⟨.write, cut.1, nofun, rfl⟩
      | none =>
        cases flush : disk.flush with
        | some cause =>
          rw [seek, write, flush] at failed
          cases failed
          exact ⟨.flush, cause, nofun, rfl⟩
        | none =>
          rw [seek, write, flush] at failed
          cases failed

theorem sync_eq_error_iff {f : OutputFile} {disk : DiskOutcome} {e : StorageError} :
    f.sync disk = .error e ↔ ∃ cause, disk.sync = some cause ∧ e = .system .sync f.path cause := by
  unfold OutputFile.sync
  cases disk.sync with
  | none => exact iff_of_false nofun (fun ⟨_, wrong, _⟩ => Option.some_ne_none _ wrong.symm)
  | some cause => simp only [Except.error.injEq, Option.some.injEq, exists_eq_left', eq_comm]

/-- Whatever becomes of a write, the file is as it was or has the first octets of the data in
place. -/
theorem writeAt_cases (f : OutputFile) (disk : DiskOutcome) (offset : Nat) (data : Bytes) :
    (f.writeAt disk offset data).2 = f ∨
      f.holds offset data.length ∧
        ∃ count, (f.writeAt disk offset data).2 = f.put offset (data.take count) := by
  unfold writeAt
  split
  next => exact Or.inl rfl
  next inside =>
    cases disk.seek with
    | some e => exact Or.inl rfl
    | none =>
      refine Or.inr ⟨not_not.1 inside, ?_⟩
      cases disk.write with
      | some cut => exact ⟨cut.2, rfl⟩
      | none => cases disk.flush <;> exact ⟨data.length, by rw [List.take_length]⟩

theorem writeAt_of_writes {f : OutputFile} {disk : DiskOutcome} {offset : Nat} {data : Bytes}
    (works : disk.Writes) (inside : f.holds offset data.length) :
    f.writeAt disk offset data = (.ok (), f.put offset data) := by
  simp only [writeAt, inside, not_true_eq_false, if_false, works.seek, works.write, works.flush]

theorem length_writeAt (f : OutputFile) (disk : DiskOutcome) (offset : Nat) (data : Bytes) :
    (f.writeAt disk offset data).2.length = f.length := by
  obtain same | ⟨_, count, same⟩ := f.writeAt_cases disk offset data
  · rw [same]
  · rw [same]
    rfl

theorem range_writeAt_apart (f : OutputFile) (disk : DiskOutcome) {offset start count : Nat}
    {data : Bytes} (apart : start + count ≤ offset ∨ offset + data.length ≤ start) :
    (f.writeAt disk offset data).2.range start count = f.range start count := by
  obtain same | ⟨inside, kept, same⟩ := f.writeAt_cases disk offset data
  · rw [same]
  · rw [same]
    have room : offset + data.length ≤ f.length := by simpa [holds] using inside
    have shorter : (data.take kept).length ≤ data.length := List.length_take_le' kept data
    apply range_put_apart
    · simp only [holds, decide_eq_true_eq]
      omega
    · omega

theorem exists_openFile_of_open {tree : Tree} {path : String} {length : Nat} {f : OutputFile}
    (opened : (do
      let content ← (tree.openFile path).mapError (.system .createFile path)
      if length > tree.maxLength then
        throw (.system .setLength path (Tree.failure .invalidInput))
      return ofContent path length content : Except StorageError OutputFile) = .ok f) :
    ∃ earlier, tree.openFile path = .ok earlier ∧ f = ofContent path length earlier := by
  cases opening : tree.openFile path with
  | error e =>
    rw [opening] at opened
    cases opened
  | ok content =>
    rw [opening] at opened
    by_cases large : length > tree.maxLength
    · simp only [large, if_true] at opened
      cases opened
    · simp only [large, if_false] at opened
      cases opened
      exact ⟨content, rfl, rfl⟩

/-- What is created is a file of the given length over what the path leads to when it is opened,
with the directories above it made where they were missing. -/
theorem exists_openFile_of_create {tree : Tree} {path : String} {length : Nat} {f : OutputFile}
    (created : create tree path length = .ok f) :
    ∃ ready earlier, (ready = tree ∨ ∃ above, tree.createDirectories above = .ok ready) ∧
      ready.openFile path = .ok earlier ∧ f = ofContent path length earlier := by
  cases parent : Path.parent? path with
  | none =>
    simp only [create, parent] at created
    obtain ⟨earlier, opened⟩ := exists_openFile_of_open created
    exact ⟨tree, earlier, Or.inl rfl, opened⟩
  | some above =>
    simp only [create, parent] at created
    by_cases present : above.isEmpty ∨ (tree.find? above).isSome
    · rw [if_pos present] at created
      obtain ⟨earlier, opened⟩ := exists_openFile_of_open created
      exact ⟨tree, earlier, Or.inl rfl, opened⟩
    · rw [if_neg present] at created
      cases made : tree.createDirectories above with
      | error e =>
        rw [made] at created
        cases created
      | ok more =>
        rw [made] at created
        obtain ⟨earlier, opened⟩ := exists_openFile_of_open created
        exact ⟨more, earlier, Or.inr ⟨above, made⟩, opened⟩

theorem exists_ofContent_of_create {tree : Tree} {path : String} {length : Nat} {f : OutputFile}
    (created : create tree path length = .ok f) :
    ∃ earlier, f = ofContent path length earlier := by
  obtain ⟨_, earlier, -, -, same⟩ := exists_openFile_of_create created
  exact ⟨earlier, same⟩

end OutputFile

end Swarm.Storage
