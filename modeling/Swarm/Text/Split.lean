/-!
Cutting a text at a separator, and what of a text stands in front of its first mark.

Main statements: no part contains the separator (`not_mem_of_mem_splitOn`), there is always at
least one part (`splitOn_ne_nil`), a text without the separator is its only part
(`splitOn_of_notMem`), the parts of two texts with a separator in between are those of the one and
then those of the other (`splitOn_append_separator`), and a text is its parts with separators in
between (`eq_append_flatMap_of_splitOn`).
-/

namespace Swarm.Text

def splitOn (separator : Char) : List Char → List (List Char)
  | [] => [[]]
  | c :: rest =>
    if c = separator then [] :: splitOn separator rest
    else match splitOn separator rest with
      | [] => [[c]]
      | part :: parts => (c :: part) :: parts

theorem splitOn_ne_nil (separator : Char) (text : List Char) : splitOn separator text ≠ [] := by
  cases text with
  | nil => simp [splitOn]
  | cons c rest =>
    rw [splitOn]
    split
    · simp
    · split <;> simp

theorem splitOn_cons_of_ne {separator c : Char} (other : c ≠ separator) (rest : List Char) :
    ∃ part parts, splitOn separator rest = part :: parts ∧
      splitOn separator (c :: rest) = (c :: part) :: parts := by
  obtain ⟨part, parts, cut⟩ := List.exists_cons_of_ne_nil (splitOn_ne_nil separator rest)
  refine ⟨part, parts, cut, ?_⟩
  rw [splitOn, if_neg other, cut]

theorem splitOn_of_notMem {separator : Char} {text : List Char} (clean : separator ∉ text) :
    splitOn separator text = [text] := by
  induction text with
  | nil => rfl
  | cons c rest ih =>
    rw [List.mem_cons, not_or] at clean
    obtain ⟨part, parts, cut, all⟩ := splitOn_cons_of_ne (Ne.symm clean.1) rest
    rw [ih clean.2] at cut
    cases cut
    exact all

theorem splitOn_append_separator (separator : Char) (first second : List Char) :
    splitOn separator (first ++ separator :: second) =
      splitOn separator first ++ splitOn separator second := by
  induction first with
  | nil => simp [splitOn]
  | cons c rest ih =>
    rw [List.cons_append]
    by_cases same : c = separator
    · simp [splitOn, same, ih]
    · obtain ⟨part, parts, cut, all⟩ := splitOn_cons_of_ne same rest
      rw [all, splitOn, if_neg same, ih, cut]
      rfl

theorem not_mem_of_mem_splitOn {separator : Char} {text part : List Char}
    (member : part ∈ splitOn separator text) : separator ∉ part := by
  induction text generalizing part with
  | nil =>
    rw [splitOn, List.mem_singleton] at member
    simp [member]
  | cons c rest ih =>
    rw [splitOn] at member
    split at member
    next =>
      rcases List.mem_cons.1 member with rfl | later
      · simp
      · exact ih later
    next other =>
      split at member
      next none => exact absurd none (splitOn_ne_nil separator rest)
      next first more cut =>
        rcases List.mem_cons.1 member with rfl | later
        · have clean : separator ∉ first := ih (by rw [cut]; exact List.mem_cons_self)
          intro found
          rcases List.mem_cons.1 found with same | inside
          · exact other same.symm
          · exact clean inside
        · exact ih (by rw [cut]; exact List.mem_cons_of_mem _ later)

/-- A text is its parts with the separator in front of all but the first. -/
theorem eq_append_flatMap_of_splitOn {separator : Char} {text first : List Char}
    {rest : List (List Char)} (cut : splitOn separator text = first :: rest) :
    text = first ++ rest.flatMap (separator :: ·) := by
  induction text generalizing first rest with
  | nil =>
    cases cut
    rfl
  | cons c text ih =>
    rw [splitOn] at cut
    obtain ⟨second, more, later⟩ := List.exists_cons_of_ne_nil (splitOn_ne_nil separator text)
    rw [later] at cut
    split at cut
    next same =>
      cases cut
      rw [List.nil_append, List.flatMap_cons, List.cons_append, same, ← ih later]
    next =>
      cases cut
      rw [List.cons_append, ← ih later]

theorem exists_front_of_splitOn {separator : Char} {text part : List Char}
    {before behind : List (List Char)} (cut : splitOn separator text = before ++ part :: behind) :
    ∃ front, text = front ++ part ++ behind.flatMap (separator :: ·) ∧
      (front = [] ∨ ∃ ahead, front = ahead ++ [separator]) := by
  cases before with
  | nil => exact ⟨[], eq_append_flatMap_of_splitOn cut, .inl rfl⟩
  | cons first more =>
    refine ⟨first ++ more.flatMap (separator :: ·) ++ [separator], ?_, .inr ⟨_, rfl⟩⟩
    rw [List.cons_append] at cut
    rw [eq_append_flatMap_of_splitOn cut, List.flatMap_append, List.flatMap_cons]
    simp only [List.append_assoc, List.cons_append, List.nil_append]

/-- Parts without the separator are what a text that is made of them is cut into. -/
theorem splitOn_append_flatMap {separator : Char} {first : List Char} {rest : List (List Char)}
    (clean : ∀ part ∈ first :: rest, separator ∉ part) :
    splitOn separator (first ++ rest.flatMap (separator :: ·)) = first :: rest := by
  induction rest generalizing first with
  | nil => simpa using splitOn_of_notMem (clean first List.mem_cons_self)
  | cons second more ih =>
    rw [List.flatMap_cons, List.cons_append, splitOn_append_separator,
      splitOn_of_notMem (clean first List.mem_cons_self),
      ih fun part member => clean part (List.mem_cons_of_mem _ member)]
    rfl

/-! ### What stands in front of the first mark -/

section Front

variable {α : Type} [BEq α] [LawfulBEq α] {mark : α} {front : List α}

theorem takeWhile_append_of_notMem (absent : mark ∉ front) (rest : List α) :
    (front ++ rest).takeWhile (· != mark) = front ++ rest.takeWhile (· != mark) := by
  apply List.takeWhile_append_of_pos
  intro c member
  rw [bne_iff_ne]
  rintro rfl
  exact absent member

theorem takeWhile_of_notMem (absent : mark ∉ front) : front.takeWhile (· != mark) = front := by
  simpa using takeWhile_append_of_notMem absent []

theorem takeWhile_append_mark (absent : mark ∉ front) (rest : List α) :
    (front ++ mark :: rest).takeWhile (· != mark) = front := by
  rw [takeWhile_append_of_notMem absent, List.takeWhile_cons_of_neg (by simp), List.append_nil]

theorem takeWhile_append_of_mem (present : mark ∈ front) (rest : List α) :
    (front ++ rest).takeWhile (· != mark) = front.takeWhile (· != mark) := by
  obtain ⟨ahead, behind, rfl, absent⟩ := List.eq_append_cons_of_mem present
  rw [List.append_assoc, List.cons_append, takeWhile_append_mark absent,
    takeWhile_append_mark absent]

end Front

end Swarm.Text
