import Mathlib.Data.List.Induction
import Swarm.Storage.Tree

/-!
What making directories does to a tree: what is there stays, and no file is new (`Adds`). So a path
that leads to a file still leads to it. A path that leads to none leads to none, unless it steps up
from a directory that was missing.
-/

namespace Swarm.Storage.Tree

/-- `u` is `t` with directories made in it. -/
structure Adds (t u : Tree) : Prop where
  kept : ∀ location node, t.node? location = some node → u.node? location = some node
  files : ∀ location content, u.node? location = some (.file content) →
    t.node? location = some (.file content)

/-- What is in a tree is in a directory of it. -/
def Rooted (t : Tree) : Prop := ∀ location name node,
  t.node? (location ++ [name]) = some node → t.node? location = some .directory

variable {t u v : Tree} {path : String} {place location : List String} {node : Node}

theorem Adds.refl (t : Tree) : t.Adds t := ⟨fun _ _ => id, fun _ _ => id⟩

theorem Adds.trans (first : t.Adds u) (second : u.Adds v) : t.Adds v where
  kept location node there := second.kept location node (first.kept location node there)
  files location content there := first.files location content (second.files location content there)

/-! ### Making directories -/

theorem adds_put (absent : t.node? location = none) : t.Adds (t.put location .directory) where
  kept := by
    intro other node there
    rw [node?_put_of_ne, there]
    intro same
    rw [same, absent] at there
    cases there
  files := by
    intro other content there
    by_cases same : other = location
    · have below : location ≠ [] := by
        intro top
        rw [top] at absent
        cases absent
      rw [same, node?_put_self t below] at there
      cases there
    · rwa [node?_put_of_ne t same] at there

theorem adds_of_makeDirectory (made : t.makeDirectory path = .ok u) : t.Adds u := by
  unfold makeDirectory at made
  split at made
  next => cases made
  next location _ =>
    split at made
    next => cases made
    next absent =>
      cases made
      exact adds_put absent

theorem adds_of_ensureDirectory (made : t.ensureDirectory path = .ok u) : t.Adds u := by
  unfold ensureDirectory at made
  split at made
  next first =>
    cases made
    exact adds_of_makeDirectory first
  next =>
    split at made
    next =>
      cases made
      exact .refl t
    next => cases made

theorem adds_of_makeDirectories {budget : Nat} (made : makeDirectories budget path t = .ok u) :
    t.Adds u := by
  induction budget generalizing path t u with
  | zero =>
    cases made
    exact .refl t
  | succ budget ih =>
    rw [makeDirectories] at made
    split at made
    next =>
      cases made
      exact .refl t
    next =>
      split at made
      next first =>
        cases made
        exact adds_of_makeDirectory first
      next =>
        split at made
        next =>
          split at made
          next => cases made
          next =>
            split at made
            next => cases made
            next above => exact (ih above).trans (adds_of_ensureDirectory made)
        next =>
          split at made
          next =>
            cases made
            exact .refl t
          next => cases made

theorem adds_of_createDirectories (made : t.createDirectories path = .ok u) : t.Adds u :=
  adds_of_makeDirectories made

/-! ### Where paths lead -/

theorem walk_cons_eq_ok {name : String} {rest : List String}
    (walked : t.walk place (name :: rest) = .ok location) :
    t.node? place = some .directory ∧ (name = "." ∧ t.walk place rest = .ok location ∨
      name ≠ "." ∧ name = ".." ∧ t.walk place.dropLast rest = .ok location ∨
      name ≠ "." ∧ name ≠ ".." ∧ isName name = true ∧
        t.walk (place ++ [name]) rest = .ok location) := by
  rw [walk] at walked
  split at walked
  next => cases walked
  next => cases walked
  next here =>
    refine ⟨here, ?_⟩
    split at walked
    next point => exact .inl ⟨point, walked⟩
    next other =>
      split at walked
      next up => exact .inr (.inl ⟨other, up, walked⟩)
      next down =>
        split at walked
        next short => exact .inr (.inr ⟨other, down, short, walked⟩)
        next => cases walked

theorem walk_cons_of {name : String} {rest : List String} (still : u.node? place = some .directory)
    (onward : ∀ place, t.walk place rest = .ok location → u.walk place rest = .ok location)
    (walked : t.walk place (name :: rest) = .ok location) :
    u.walk place (name :: rest) = .ok location := by
  rw [walk, (walk_cons_eq_ok walked).1] at walked
  rw [walk, still]
  dsimp only at walked ⊢
  split at walked
  next point =>
    rw [if_pos point]
    exact onward _ walked
  next other =>
    rw [if_neg other]
    split at walked
    next up =>
      rw [if_pos up]
      exact onward _ walked
    next down =>
      rw [if_neg down]
      split at walked
      next short =>
        rw [if_pos short]
        exact onward _ walked
      next => cases walked

theorem Adds.walk_eq_ok (adds : t.Adds u) {steps : List String}
    (walked : t.walk place steps = .ok location) : u.walk place steps = .ok location := by
  induction steps generalizing place with
  | nil => exact walked
  | cons name rest ih =>
    have still := adds.kept _ _ (walk_cons_eq_ok walked).1
    exact walk_cons_of still (fun _ => ih) walked

/-- Without a step up, a walk leads below where it starts. -/
theorem exists_append_of_walk {steps : List String} (down : ".." ∉ steps)
    (walked : t.walk place steps = .ok location) : ∃ names, location = place ++ names := by
  induction steps generalizing place with
  | nil =>
    cases walked
    exact ⟨[], (List.append_nil _).symm⟩
  | cons name rest ih =>
    obtain ⟨apart, later⟩ := not_or.1 (mt List.mem_cons.2 down)
    obtain ⟨-, step⟩ := walk_cons_eq_ok walked
    rcases step with ⟨-, onward⟩ | ⟨-, rfl, -⟩ | ⟨-, -, -, onward⟩
    · exact ih later onward
    · exact absurd rfl apart
    · obtain ⟨names, same⟩ := ih later onward
      exact ⟨name :: names, by rw [same, List.append_assoc, List.singleton_append]⟩

theorem Rooted.directory (rooted : t.Rooted) {below : List String} (further : below ≠ [])
    (there : t.node? (place ++ below) = some node) : t.node? place = some .directory := by
  induction below using List.reverseRecOn generalizing node with
  | nil => exact absurd rfl further
  | append_singleton front name ih =>
    rw [← List.append_assoc] at there
    have above := rooted _ _ _ there
    by_cases last : front = []
    · rwa [last, List.append_nil] at above
    · exact ih last above

/-- What a path leads to without a step up, it leads to without the directories that were made,
if it was there before. -/
theorem Adds.walk_of_rooted (adds : t.Adds u) (rooted : t.Rooted) {steps : List String}
    (down : ".." ∉ steps) (walked : u.walk place steps = .ok location)
    (there : t.node? location = some node) : t.walk place steps = .ok location := by
  induction steps generalizing place with
  | nil => exact walked
  | cons name rest ih =>
    have here : t.node? place = some .directory := by
      obtain ⟨names, same⟩ := exists_append_of_walk down walked
      rw [same] at there
      by_cases end_ : names = []
      · rw [end_, List.append_nil] at there
        have still := adds.kept _ _ there
        rw [(walk_cons_eq_ok walked).1] at still
        rw [there, ← still]
      · exact rooted.directory end_ there
    have later := (not_or.1 (mt List.mem_cons.2 down)).2
    exact walk_cons_of here (fun _ => ih later) walked

theorem content?_eq_some_iff {content : Bytes} : t.content? path = some content ↔
    isPath path = true ∧ ∃ location, t.walk [] (Path.steps path) = .ok location ∧
      t.node? location = some (.file content) := by
  rw [content?, find?, locate]
  by_cases taken : isPath path = true
  · rw [if_pos taken]
    cases t.walk [] (Path.steps path) with
    | error e => simp
    | ok location =>
      cases there : t.node? location with
      | none => simp [there]
      | some node => cases node <;> simp [taken, there]
  · simp [taken]

theorem Adds.content?_eq_some (adds : t.Adds u) {content : Bytes}
    (found : t.content? path = some content) : u.content? path = some content := by
  obtain ⟨taken, location, walked, there⟩ := content?_eq_some_iff.1 found
  exact content?_eq_some_iff.2
    ⟨taken, location, adds.walk_eq_ok walked, adds.kept _ _ there⟩

theorem Adds.content?_eq (adds : t.Adds u) (rooted : t.Rooted) (down : ".." ∉ Path.steps path) :
    u.content? path = t.content? path := by
  apply Option.ext
  intro content
  constructor
  · intro found
    obtain ⟨taken, location, walked, there⟩ := content?_eq_some_iff.1 found
    have before := adds.files _ _ there
    exact content?_eq_some_iff.2
      ⟨taken, location, adds.walk_of_rooted rooted down walked before, before⟩
  · exact adds.content?_eq_some

/-- Opening a file tells the content of the one that the path leads to, and nothing if there is
none. -/
theorem openFile_eq_ok {content : Bytes} (opened : t.openFile path = .ok content) :
    content = (t.content? path).getD [] := by
  rw [content?, find?]
  unfold openFile at opened
  split at opened
  next => cases opened
  next location located =>
    split at opened
    next => cases opened
    next found =>
      rw [found]
      split at opened
      next => cases opened
      next =>
        cases opened
        rfl
    next absent =>
      rw [absent]
      split at opened
      next => cases opened
      next =>
        cases opened
        rfl

end Swarm.Storage.Tree
