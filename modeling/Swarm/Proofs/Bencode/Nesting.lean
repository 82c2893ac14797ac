import Swarm.Bencode.Value

/-!
Trees and their parts. A tree is a part of itself, no level down, and the parts of its children lie
one level further down than in the children. What is said of all parts of a tree is therefore said
of the tree itself and of all parts of its children, which is how the recursions on values meet
their statements.
-/

namespace Swarm.Bencode

/-- A tree has `part` in it, as many levels below its root as the number says. -/
inductive Part {α : Type} (children : α → List α) : α → Nat → α → Prop where
  | root (whole : α) : Part children whole 0 whole
  | inner {whole child part : α} {depth : Nat} (direct : child ∈ children whole)
      (inside : Part children child depth part) : Part children whole (depth + 1) part

/-- All parts of a tree lie on its first `levels` levels, the root being on the first. -/
def Within {α : Type} (children : α → List α) (levels : Nat) (whole : α) : Prop :=
  ∀ depth part, Part children whole depth part → depth < levels

def Throughout {α : Type} (children : α → List α) (holds : α → Prop) (whole : α) : Prop :=
  ∀ depth part, Part children whole depth part → holds part

section

variable {α : Type} {children : α → List α} {whole : α}

theorem within_succ_iff_le {limit : Nat} : Within children (limit + 1) whole ↔
    ∀ depth part, Part children whole depth part → depth ≤ limit := by
  simp only [Within, Nat.lt_succ_iff]

theorem not_within_zero : ¬ Within children 0 whole :=
  fun within => absurd (within 0 whole (.root whole)) (Nat.lt_irrefl 0)

theorem within_succ_iff {levels : Nat} : Within children (levels + 1) whole ↔
    ∀ child ∈ children whole, Within children levels child := by
  constructor
  · intro within child direct depth part inside
    exact Nat.lt_of_succ_lt_succ (within (depth + 1) part (.inner direct inside))
  · intro within depth part inside
    cases inside with
    | root => exact Nat.succ_pos levels
    | inner direct inside => exact Nat.succ_lt_succ (within _ direct _ _ inside)

theorem throughout_iff {holds : α → Prop} : Throughout children holds whole ↔
    holds whole ∧ ∀ child ∈ children whole, Throughout children holds child := by
  constructor
  · intro all
    exact ⟨all 0 whole (.root whole), fun child direct depth part inside =>
      all (depth + 1) part (.inner direct inside)⟩
  · rintro ⟨here, below⟩ depth part inside
    cases inside with
    | root => exact here
    | inner direct inside => exact below _ direct _ _ inside

theorem within_of_children_eq_nil {levels : Nat} (leaf : children whole = []) :
    Within children (levels + 1) whole := by
  rw [within_succ_iff, leaf]
  exact List.forall_mem_nil _

theorem throughout_of_children_eq_nil {holds : α → Prop} (leaf : children whole = [])
    (here : holds whole) : Throughout children holds whole := by
  rw [throughout_iff, leaf]
  exact ⟨here, List.forall_mem_nil _⟩

end

namespace Value

def children : Value → List Value
  | list items => items
  | dict entries => entries.map Prod.snd
  | _ => []

@[elab_as_elim, induction_eliminator]
theorem induct {motive : Value → Prop} (integer : ∀ n, motive (.integer n))
    (bytes : ∀ b, motive (.bytes b))
    (list : ∀ items, (∀ v ∈ items, motive v) → motive (.list items))
    (dict : ∀ entries : Entries, (∀ e ∈ entries, motive e.2) → motive (.dict entries)) :
    ∀ v, motive v
  | .integer n => integer n
  | .bytes b => bytes b
  | .list items => list items fun v _ => induct integer bytes list dict v
  | .dict entries => dict entries fun e _ => induct integer bytes list dict e.2
decreasing_by
  · have smaller := List.sizeOf_lt_of_mem ‹v ∈ items›
    rw [Value.list.sizeOf_spec]
    omega
  · obtain ⟨k, v⟩ := e
    have smaller := List.sizeOf_lt_of_mem ‹(k, v) ∈ entries›
    rw [Prod.mk.sizeOf_spec] at smaller
    rw [Value.dict.sizeOf_spec]
    show sizeOf v < _
    omega

end Value

end Swarm.Bencode
