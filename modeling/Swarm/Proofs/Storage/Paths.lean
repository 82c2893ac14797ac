import Swarm.Storage.Tree

/-!
Paths by their components. The last component of a path is stated of the text of the path
(`EndsIn`): what stands in front of it ends in a slash, and behind it nothing is named any more. A
component below a directory is one more step from there, so what it leads to lies in the directory
(`isEntry_join`).
-/

namespace Swarm.Storage

namespace Path

/-- A component of a path: neither blank nor a single point, and without a slash. -/
def IsComponent (name : String) : Prop := name ≠ "" ∧ name ≠ "." ∧ '/' ∉ name.toList

def IsOrdinary (name : String) : Prop := IsComponent name ∧ name ≠ ".."

/-- Parts of a path that name nothing: blanks and single points. -/
def Nameless (parts : List (List Char)) : Prop := ∀ part ∈ parts, part = [] ∨ part = ['.']

/-- The last component of a path. It begins the path or follows a slash, and the parts behind it,
each with a slash in front, name nothing. -/
structure EndsIn (path last : String) : Prop where
  component : IsComponent last
  place : ∃ front behind, path.toList = front ++ last.toList ++ behind.flatMap ('/' :: ·) ∧
    (front = [] ∨ ∃ ahead, front = ahead ++ ['/']) ∧ Nameless behind

variable {path name last : String}

def isNamed (part : List Char) : Bool := part != [] && part != ['.']

theorem names_eq (path : String) :
    names path = ((Text.splitOn '/' path.toList).filter isNamed).map String.ofList := rfl

theorem isNamed_iff {part : List Char} : isNamed part = true ↔ part ≠ [] ∧ part ≠ ['.'] := by
  rw [isNamed, Bool.and_eq_true, bne_iff_ne, bne_iff_ne]

theorem filter_of_nameless {parts : List (List Char)} :
    parts.filter isNamed = [] ↔ Nameless parts := by
  rw [List.filter_eq_nil_iff]
  refine forall₂_congr fun part _ => ?_
  rw [isNamed_iff, ← not_or, Classical.not_not]

theorem IsComponent.isNamed (component : IsComponent name) : isNamed name.toList = true := by
  refine isNamed_iff.2 ⟨fun blank => component.1 ?_, fun point => component.2.1 ?_⟩
  · exact String.toList_injective blank
  · exact String.toList_injective point

theorem slash_notMem_of_nameless {parts : List (List Char)} (nameless : Nameless parts) :
    ∀ part ∈ parts, '/' ∉ part := by
  intro part member
  rcases nameless part member with rfl | rfl <;> decide

theorem getLast?_names_of_endsIn (ends : EndsIn path last) : (names path).getLast? = some last := by
  obtain ⟨front, behind, text, start, nameless⟩ := ends.place
  have clean : ∀ part ∈ last.toList :: behind, '/' ∉ part :=
    List.forall_mem_cons.2 ⟨ends.component.2.2, slash_notMem_of_nameless nameless⟩
  have back := Text.splitOn_append_flatMap clean
  obtain ⟨ahead, cut⟩ : ∃ ahead, Text.splitOn '/' path.toList = ahead ++ last.toList :: behind := by
    rcases start with rfl | ⟨ahead, rfl⟩
    · exact ⟨[], by rw [text, List.nil_append, back, List.nil_append]⟩
    · refine ⟨Text.splitOn '/' ahead, ?_⟩
      rw [text, List.append_assoc, List.append_assoc, List.singleton_append,
        Text.splitOn_append_separator, back]
  have kept : (ahead ++ last.toList :: behind).filter isNamed =
      ahead.filter isNamed ++ [last.toList] := by
    rw [List.filter_append, List.filter_cons_of_pos ends.component.isNamed,
      filter_of_nameless.2 nameless]
  rw [names_eq, cut, kept, List.map_append, List.map_singleton, List.getLast?_concat,
    String.ofList_toList]

theorem endsIn_of_getLast?_names (found : (names path).getLast? = some last) :
    EndsIn path last := by
  rw [names_eq, List.getLast?_map, Option.map_eq_some_iff] at found
  obtain ⟨part, final, rfl⟩ := found
  obtain ⟨earlier, filtered⟩ := List.getLast?_eq_some_iff.1 final
  obtain ⟨before, rest, cut, -, kept⟩ := List.filter_eq_append_iff.1 filtered
  obtain ⟨between, behind, rfl, -, named, nothing⟩ := List.filter_eq_cons_iff.1 kept
  rw [← List.append_assoc] at cut
  have member : part ∈ Text.splitOn '/' path.toList := by
    rw [cut]
    exact List.mem_append_right _ List.mem_cons_self
  have clean := Text.not_mem_of_mem_splitOn member
  have proper := isNamed_iff.1 named
  refine ⟨⟨fun blank => proper.1 ?_, fun point => proper.2 ?_, ?_⟩, ?_⟩
  · simpa using blank
  · simpa using congrArg String.toList point
  · rwa [String.toList_ofList]
  · obtain ⟨front, text, start⟩ := Text.exists_front_of_splitOn cut
    rw [String.toList_ofList]
    exact ⟨front, behind, text, start, filter_of_nameless.1 nothing⟩

theorem getLast?_names_iff : (names path).getLast? = some last ↔ EndsIn path last :=
  ⟨endsIn_of_getLast?_names, getLast?_names_of_endsIn⟩

/-! ### A component below a directory -/

variable {directory : String}

theorem startsWith_slash_iff : path.startsWith "/" = true ↔ path.toList.head? = some '/' := by
  rw [String.startsWith_string_iff]
  cases path.toList with
  | nil => simp
  | cons c rest => simp [eq_comm]

theorem IsComponent.not_startsWith_slash (component : IsComponent name) :
    name.startsWith "/" = false := by
  rw [Bool.eq_false_iff, ne_eq, startsWith_slash_iff]
  exact fun first => component.2.2 (List.mem_of_mem_head? first)

theorem endsWith_slash_iff : directory.endsWith "/" = true ↔
    ∃ ahead, directory.toList = ahead ++ ['/'] := by
  rw [String.endsWith_eq_endsWith_toSlice, String.Slice.endsWith_string_iff, String.copy_toSlice]
  exact exists_congr fun _ => eq_comm

/-- A component is put behind the directory with a slash in between, unless there is nothing in
front of it or a slash already. -/
theorem join_of_component (directory : String) (component : IsComponent name) :
    ∃ between, join directory name = directory ++ between ++ name ∧
      (between = "" ∧ (directory = "" ∨ ∃ ahead, directory.toList = ahead ++ ['/']) ∨
        between = "/" ∧ directory ≠ "") := by
  rw [join, component.not_startsWith_slash, if_neg Bool.false_ne_true]
  split
  next ready =>
    refine ⟨"", by rw [String.append_empty], .inl ⟨rfl, ?_⟩⟩
    rwa [String.isEmpty_iff, endsWith_slash_iff] at ready
  next unready =>
    exact ⟨"/", rfl, .inr ⟨rfl, fun blank => unready (.inl (String.isEmpty_iff.2 blank))⟩⟩

theorem IsComponent.steps (component : IsComponent name) : steps name = [name] := by
  have proper := (isNamed_iff.1 component.isNamed).1
  rw [Path.steps, Text.splitOn_of_notMem component.2.2,
    List.filter_cons_of_pos (by rwa [bne_iff_ne]), List.filter_nil, List.map_singleton,
    String.ofList_toList]

theorem steps_of_slash {front back : List Char} (text : path.toList = front ++ '/' :: back) :
    steps path = steps (String.ofList front) ++ steps (String.ofList back) := by
  simp only [steps, text, String.toList_ofList, Text.splitOn_append_separator, List.filter_append,
    List.map_append]

theorem steps_join (component : IsComponent name) :
    steps (join directory name) = steps directory ++ [name] := by
  obtain ⟨between, joined, ⟨rfl, rfl | ⟨ahead, slash⟩⟩ | ⟨rfl, -⟩⟩ :=
    join_of_component directory component
  · rw [joined, String.append_empty, String.empty_append, component.steps]
    rfl
  · have text : (join directory name).toList = ahead ++ '/' :: name.toList := by
      rw [joined, String.append_empty, String.toList_append, slash, List.append_assoc]
      rfl
    rw [steps_of_slash text, steps_of_slash slash, String.ofList_toList, component.steps]
    exact congrArg (· ++ [name]) (List.append_nil _).symm
  · have text : (join directory name).toList = directory.toList ++ '/' :: name.toList := by
      rw [joined, String.toList_append, String.toList_append, List.append_assoc]
      rfl
    rw [steps_of_slash text, String.ofList_toList, String.ofList_toList, component.steps]

theorem startsWith_slash_join (component : IsComponent name) :
    (join directory name).startsWith "/" = directory.startsWith "/" := by
  obtain ⟨between, joined, alternatives⟩ := join_of_component directory component
  by_cases blank : directory = ""
  · obtain ⟨rfl, -⟩ | ⟨-, absurd⟩ := alternatives
    · rw [joined, blank, String.append_empty, String.empty_append, component.not_startsWith_slash]
      rfl
    · contradiction
  · obtain ⟨c, rest, text⟩ := List.exists_cons_of_ne_nil fun nothing =>
      blank (String.toList_injective nothing)
    rw [Bool.eq_iff_iff, startsWith_slash_iff, startsWith_slash_iff, joined, String.toList_append,
      String.toList_append, List.append_assoc, text]
    rfl

end Path

namespace Tree

open Storage.Path

variable {t : Tree} {directory name : String} {place location : List String}

theorem walk_append (first rest : List String) :
    t.walk place (first ++ rest) = (t.walk place first).bind (t.walk · rest) := by
  induction first generalizing place with
  | nil => rfl
  | cons name more ih =>
    rw [List.cons_append, walk, walk]
    cases t.node? place with
    | none => rfl
    | some node =>
      cases node with
      | file content => rfl
      | directory =>
        -- Where a step leads, the rest of the path is walked from there.
        dsimp only
        split
        next => exact ih
        split
        next => exact ih
        split
        next => exact ih
        next => rfl

theorem walk_singleton_eq_ok_iff (ordinary : IsOrdinary name) :
    t.walk place [name] = .ok location ↔
      t.node? place = some .directory ∧ isName name = true ∧ location = place ++ [name] := by
  rw [walk]
  cases t.node? place with
  | none => simp
  | some node =>
    cases node with
    | file content => simp
    | directory =>
      rw [if_neg ordinary.1.2.1, if_neg ordinary.2]
      by_cases short : isName name = true
      · simp [short, walk, eq_comm]
      · simp [short]

theorem isPath_of_append {front back : String} (taken : isPath (front ++ back) = true) :
    isPath front = true := by
  simp only [isPath, String.utf8ByteSize_append, String.contains_char_eq, String.toList_append,
    List.mem_append, Bool.and_eq_true, decide_eq_true_eq, Bool.not_eq_true',
    decide_eq_false_iff_not, not_or] at taken ⊢
  exact ⟨by omega, taken.2.1⟩

/-- What an ordinary component below a directory leads to is found in that directory, and nowhere
else. -/
theorem locate_join_eq_ok_iff (ordinary : IsOrdinary name) :
    t.locate (join directory name) = .ok location ↔
      isPath (join directory name) = true ∧ isName name = true ∧
        ∃ place, t.locate directory = .ok place ∧ t.node? place = some .directory ∧
          location = place ++ [name] := by
  obtain ⟨between, joined, -⟩ := join_of_component directory ordinary.1
  rw [locate]
  split
  next taken =>
    have within : isPath directory = true := by
      rw [joined, String.append_assoc] at taken
      exact isPath_of_append taken
    rw [steps_join ordinary.1, walk_append, locate, if_pos within]
    cases t.walk [] (steps directory) with
    | error e => simp [Except.bind, taken]
    | ok place =>
      rw [Except.bind, walk_singleton_eq_ok_iff ordinary]
      constructor
      · rintro ⟨here, short, rfl⟩
        exact ⟨taken, short, place, rfl, here, rfl⟩
      · rintro ⟨-, short, _, ⟨⟩, here, rfl⟩
        exact ⟨here, short, rfl⟩
  next untaken => simp [untaken]

end Tree

/-- A path that is the entry `name` of a directory: one step from there, from the top or not as the
directory is, and in whatever tree of files it leads to anything, in the directory. -/
structure Path.IsEntry (directory name path : String) : Prop where
  steps : steps path = steps directory ++ [name]
  rooted : path.startsWith "/" = directory.startsWith "/"
  located : ∀ (t : Tree) (location : List String), t.locate path = .ok location ↔
    Tree.isPath path = true ∧ Tree.isName name = true ∧
      ∃ place, t.locate directory = .ok place ∧ t.node? place = some .directory ∧
        location = place ++ [name]

theorem Path.isEntry_join {directory name : String} (ordinary : IsOrdinary name) :
    IsEntry directory name (join directory name) where
  steps := steps_join ordinary.1
  rooted := startsWith_slash_join ordinary.1
  located _ _ := Tree.locate_join_eq_ok_iff ordinary

end Swarm.Storage
