import Mathlib
import Swarm.Proofs.Storage.Directories
import Swarm.Proofs.Storage.Ranges

/-!
The output file as an array of octets of fixed length, under any writes one after the other.

Whether a write is accepted depends on its range and the length alone. One that is accepted replaces
its range, and one that is refused changes nothing, so the content is that before the first write
with the accepted ones made in order. Where two writes have no octet in common, each leaves the
other's range as it is, and their order does not matter.
-/

namespace Swarm.Storage

structure Write where
  offset : Nat
  data : Bytes
  disk : DiskOutcome

namespace Write

def Fits (w : Write) (length : Nat) : Prop := w.offset + w.data.length ≤ length

instance (w : Write) (length : Nat) : Decidable (w.Fits length) :=
  inferInstanceAs (Decidable (_ ≤ _))

def replace (content : Bytes) (w : Write) : Bytes :=
  content.take w.offset ++ w.data ++ content.drop (w.offset + w.data.length)

def Covers (w : Write) (i : Nat) : Prop := w.offset ≤ i ∧ i < w.offset + w.data.length

instance (w : Write) (i : Nat) : Decidable (w.Covers i) := inferInstanceAs (Decidable (_ ∧ _))

def Apart (v w : Write) : Prop := ∀ i, v.Covers i → ¬ w.Covers i

variable {v w : Write} {content : Bytes}

theorem length_replace (fits : w.Fits content.length) :
    (replace content w).length = content.length := by
  unfold Fits at fits
  simp only [replace, List.length_append, List.length_take, List.length_drop]
  omega

theorem getElem?_replace (fits : w.Fits content.length) (i : Nat) :
    (replace content w)[i]? = if w.Covers i then w.data[i - w.offset]? else content[i]? := by
  unfold Fits at fits
  have front : (content.take w.offset).length = w.offset := by
    rw [List.length_take]
    omega
  rw [replace, List.append_assoc, List.getElem?_append, front]
  by_cases covered : w.Covers i
  · have before := covered.1
    have inside := covered.2
    rw [if_pos covered, if_neg (by omega), List.getElem?_append_left (by omega)]
  · rw [if_neg covered]
    by_cases before : i < w.offset
    · rw [if_pos before, List.getElem?_take_of_lt before]
    · have behind : w.offset + w.data.length ≤ i := by
        by_contra inside
        exact covered ⟨by omega, by omega⟩
      rw [if_neg before, List.getElem?_append_right (by omega), List.getElem?_drop]
      congr 1
      omega

/-- Writes that have no octet in common can be made in either order. -/
theorem replace_comm (apart : v.Apart w) (first : v.Fits content.length)
    (second : w.Fits content.length) :
    replace (replace content v) w = replace (replace content w) v := by
  have second' : w.Fits (replace content v).length := by rwa [length_replace first]
  have first' : v.Fits (replace content w).length := by rwa [length_replace second]
  apply List.ext_getElem?
  intro i
  rw [getElem?_replace second', getElem?_replace first, getElem?_replace first',
    getElem?_replace second]
  by_cases here : v.Covers i
  · rw [if_pos here, if_pos here, if_neg (apart i here)]
  · rw [if_neg here, if_neg here]

end Write

namespace OutputFile

def write (f : OutputFile) (w : Write) : Except StorageError Unit × OutputFile :=
  f.writeAt w.disk w.offset w.data

def after (f : OutputFile) (writes : List Write) : OutputFile :=
  writes.foldl (fun f w => (f.write w).2) f

variable {f g : OutputFile} {v w : Write} {writes : List Write}

theorem after_append (f : OutputFile) (first later : List Write) :
    f.after (first ++ later) = (f.after first).after later := List.foldl_append

/-! ### One write -/

theorem holds_iff_fits : f.holds w.offset w.data.length = true ↔ w.Fits f.length :=
  decide_eq_true_iff

/-- The sum of offset and count need not be formed exactly. In 64 bits it says the same, with one
that wraps around counted as past the end. -/
theorem holds_iff_word (f : OutputFile) (representable : f.length < UInt64.size)
    (offset count : UInt64) :
    f.holds offset.toNat count.toNat = true ↔
      offset ≤ offset + count ∧ (offset + count).toNat ≤ f.length := by
  have limit := offset.toNat_lt
  have small := count.toNat_lt
  rw [UInt64.le_iff_toNat_le, UInt64.toNat_add, holds, decide_eq_true_iff]
  unfold UInt64.size at representable
  omega

theorem write_of_fits (works : w.disk.Writes) (fits : w.Fits f.length) :
    f.write w = (.ok (), f.put w.offset w.data) :=
  writeAt_of_writes works (holds_iff_fits.2 fits)

theorem write_of_not_fits (beyond : ¬ w.Fits f.length) :
    f.write w = (.error (.pastEnd f.path w.offset w.data.length f.length), f) :=
  if_pos (mt holds_iff_fits.1 beyond)

theorem write_eq_ok_iff (works : w.disk.Writes) : (f.write w).1 = .ok () ↔ w.Fits f.length := by
  by_cases fits : w.Fits f.length
  · rw [write_of_fits works fits]
    exact iff_of_true rfl fits
  · rw [write_of_not_fits fits]
    exact iff_of_false nofun fits

theorem length_write (f : OutputFile) (w : Write) : (f.write w).2.length = f.length :=
  f.length_writeAt w.disk w.offset w.data

theorem path_write (f : OutputFile) (w : Write) : (f.write w).2.path = f.path := by
  obtain same | ⟨-, count, same⟩ := f.writeAt_cases w.disk w.offset w.data
  · rw [write, same]
  · rw [write, same, put]

theorem content_write_of_fits (works : w.disk.Writes) (fits : w.Fits f.length) :
    (f.write w).2.content = w.replace f.content := by
  rw [write_of_fits works fits]
  exact content_put_eq fits

/-! ### Writes one after the other -/

theorem length_after (f : OutputFile) (writes : List Write) :
    (f.after writes).length = f.length := by
  induction writes generalizing f with
  | nil => rfl
  | cons w rest ih => exact (ih _).trans (f.length_write w)

theorem path_after (f : OutputFile) (writes : List Write) : (f.after writes).path = f.path := by
  induction writes generalizing f with
  | nil => rfl
  | cons w rest ih => exact (ih _).trans (f.path_write w)

/-- The content is what it was, with the writes that fit made in order. -/
theorem content_after (works : ∀ w ∈ writes, w.disk.Writes) : (f.after writes).content =
    (writes.filter (·.Fits f.length)).foldl (fun content w => w.replace content) f.content := by
  induction writes generalizing f with
  | nil => rfl
  | cons w rest ih =>
    obtain ⟨first, later⟩ := List.forall_mem_cons.1 works
    have onward := ih (f := (f.write w).2) later
    rw [f.length_write w] at onward
    refine onward.trans ?_
    by_cases fits : w.Fits f.length
    · rw [List.filter_cons_of_pos (by simpa using fits), List.foldl_cons,
        content_write_of_fits first fits]
    · rw [List.filter_cons_of_neg (by simpa using fits), write_of_not_fits fits]

theorem content_after_congr (works : ∀ w ∈ writes, w.disk.Writes) (length : f.length = g.length)
    (content : f.content = g.content) : (f.after writes).content = (g.after writes).content := by
  rw [content_after works, content_after works, length, content]

theorem content_after_pair (apart : v.Apart w) (first : v.disk.Writes) (second : w.disk.Writes) :
    (f.after [v, w]).content = (f.after [w, v]).content := by
  have forward : ∀ u ∈ [v, w], u.disk.Writes := by simp [first, second]
  have backward : ∀ u ∈ [w, v], u.disk.Writes := by simp [first, second]
  rw [content_after forward, content_after backward]
  by_cases one : v.Fits f.length
  · by_cases other : w.Fits f.length
    · have both : Write.replace (Write.replace f.content v) w =
          Write.replace (Write.replace f.content w) v := by
        rw [← f.length_content] at one other
        exact Write.replace_comm apart one other
      simpa [one, other] using both
    · simp [one, other]
  · by_cases other : w.Fits f.length <;> simp [one, other]

theorem content_after_swap {before rest : List Write} (apart : v.Apart w)
    (works : ∀ u ∈ before ++ v :: w :: rest, u.disk.Writes) :
    (f.after (before ++ w :: v :: rest)).content =
      (f.after (before ++ v :: w :: rest)).content := by
  obtain ⟨-, first, second, later⟩ : (∀ u ∈ before, u.disk.Writes) ∧ v.disk.Writes ∧
      w.disk.Writes ∧ ∀ u ∈ rest, u.disk.Writes := by
    simpa [or_imp, forall_and] using works
  rw [show before ++ w :: v :: rest = before ++ ([w, v] ++ rest) from rfl,
    show before ++ v :: w :: rest = before ++ ([v, w] ++ rest) from rfl]
  simp only [after_append]
  apply content_after_congr later
  · simp only [length_after]
  · exact (content_after_pair apart first second).symm

/-! ### The file as an array -/

/-- What is created is a file of the given length over what the path leads to, once the directories
above it are there. A file that the path led to before is the one, and if it led to none there is
none, unless the path steps up. -/
theorem exists_ready_of_create {tree : Tree} {path : String} {length : Nat}
    (created : create tree path length = .ok f) : ∃ ready : Tree, tree.Adds ready ∧
      f = ofContent path length ((ready.content? path).getD []) ∧
      (∀ content, tree.content? path = some content → ready.content? path = some content) ∧
      (tree.Rooted → ".." ∉ Path.steps path → ready.content? path = tree.content? path) := by
  obtain ⟨ready, earlier, made, opened, same⟩ := exists_openFile_of_create created
  have adds : tree.Adds ready := by
    rcases made with rfl | ⟨above, made⟩
    · exact .refl _
    · exact Tree.adds_of_createDirectories made
  refine ⟨ready, adds, ?_, fun content => adds.content?_eq_some, adds.content?_eq⟩
  rw [same, ← Tree.openFile_eq_ok opened]

/-- A file is created over what its path led to before, cut or filled up with zeros to the length.
After any writes that the system carries out it still has that length, and its content is that
before them with those made in order that do not reach past the end. These are the ones that are
accepted. The others are refused and change nothing, and so is one for which the sum of offset and
count wraps around. Two writes in a row that have no octet in common can change places. -/
theorem behaves_as_array (path : String) (length : Nat) (earlier : Bytes) (writes : List Write)
    (works : ∀ w ∈ writes, w.disk.Writes) :
    let f := ofContent path length earlier
    (∀ tree g, create tree path length = .ok g → ∃ ready : Tree, tree.Adds ready ∧
      g = ofContent path length ((ready.content? path).getD []) ∧
      (∀ content, tree.content? path = some content → ready.content? path = some content) ∧
      (tree.Rooted → ".." ∉ Path.steps path → ready.content? path = tree.content? path)) ∧
    (f.after writes).content.length = length ∧
    (f.after writes).content =
      (writes.filter (·.Fits length)).foldl (fun content w => w.replace content)
        (earlier.take length ++ List.replicate (length - earlier.length) 0) ∧
    (∀ before w rest, writes = before ++ w :: rest →
      (((f.after before).write w).1 = .ok () ↔ w.Fits length) ∧
      (¬ w.Fits length → (f.after before).write w =
        (.error (.pastEnd path w.offset w.data.length length), f.after before))) ∧
    (length < UInt64.size → ∀ offset count : UInt64, f.holds offset.toNat count.toNat = true ↔
      offset ≤ offset + count ∧ (offset + count).toNat ≤ length) ∧
    ∀ before v w rest, writes = before ++ v :: w :: rest → v.Apart w →
      (f.after (before ++ w :: v :: rest)).content = (f.after writes).content := by
  intro f
  refine ⟨fun _ _ => exists_ready_of_create, ?_, content_after works, ?_, f.holds_iff_word, ?_⟩
  · rw [length_content, length_after]
    rfl
  · intro before w rest same
    have size : (f.after before).length = length := f.length_after before
    have place : (f.after before).path = path := f.path_after before
    constructor
    · rw [write_eq_ok_iff (works w (by simp [same])), size]
    · intro beyond
      rw [← size] at beyond
      rw [write_of_not_fits beyond, size, place]
  · intro before v w rest same apart
    rw [same] at works ⊢
    exact content_after_swap apart works

theorem behaves_as_array_sample :
    let f := ofContent "out" 4 [9, 9, 9, 9, 9, 9]
    let inside : Write := ⟨1, [1, 2], .smooth⟩
    let past : Write := ⟨3, [5, 6], .smooth⟩
    let last : Write := ⟨18446744073709551615, [7], .smooth⟩
    let end_ : Write := ⟨3, [8], .smooth⟩
    let writes := [past, last, inside, end_]
    (∀ w ∈ writes, w.disk.Writes) ∧
      create ⟨[(["out"], .file [9, 9, 9, 9, 9, 9])], 4096⟩ "out" 4 = .ok f ∧
      (f.after writes).content.length = 4 ∧ (f.after writes).content = [9, 1, 2, 8] ∧
      (f.after [past]).write last =
        (.error (.pastEnd "out" 18446744073709551615 1 4), f.after [past]) ∧
      inside.Apart end_ ∧ (f.after [past, last, end_, inside]).content = [9, 1, 2, 8] := by
  intro f inside past last end_ writes
  have works : ∀ w ∈ writes, w.disk.Writes := by
    simp [writes, inside, past, last, end_, DiskOutcome.writes_smooth]
  have apart : inside.Apart end_ := by
    intro i covered other
    have upper : i < 3 := covered.2
    have lower : 3 ≤ i := other.1
    omega
  obtain ⟨-, size, content, answers, -, swap⟩ :=
    behaves_as_array "out" 4 [9, 9, 9, 9, 9, 9] writes works
  have result : (f.after writes).content = [9, 1, 2, 8] := by
    rw [show (f.after writes).content = _ from content]
    decide
  have refused := (answers [past] last [inside, end_] rfl).2 (by decide)
  refine ⟨works, by cbv, size, result, refused, apart, ?_⟩
  rw [← result]
  exact swap [past, last] inside end_ [] rfl apart

end OutputFile

end Swarm.Storage
