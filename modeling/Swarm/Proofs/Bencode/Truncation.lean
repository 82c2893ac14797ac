import Swarm.Proofs.Bencode.Reading

/-!
Inputs that end too early. Wherever an input ends inside the text of a value that could be read, the
reader finds that out and says where the input ends: the numeral has no mark behind it, a string is
shorter than its length tells, or nothing is left where an item, a key or an end mark should stand
(`Cursor.value_of_endsIn`). No other fault is found first, for all that stands in front of the end
is as it should be.
-/

namespace Swarm.Bencode

namespace Cursor

open Swarm.Bencode.Derivation

/-- The input ends inside `text`, which starts at the cursor. -/
def EndsIn (c : Cursor) (text : Bytes) : Prop := ∃ missing, missing ≠ [] ∧ text = c.rest ++ missing

variable {α β : Type} {element : Cursor → Except DecodeError (α × Cursor)} {c c' : Cursor}
  {a b text : Bytes} {octet mark : UInt8} {levels budget limit : Nat}

theorem Spans.extent (spans : c.Spans text c') : c'.extent = c.extent := by
  rw [Cursor.extent, Cursor.extent, spans.position, spans.length, Nat.add_assoc]

theorem extent_of_nil (ahead : c.rest = []) : c.extent = c.position := by
  rw [extent, ahead, List.length_nil, Nat.add_zero]

theorem endsIn_singleton : c.EndsIn [octet] ↔ c.rest = [] := by
  constructor
  · rintro ⟨missing, filled, same⟩
    cases ahead : c.rest with
    | nil => rfl
    | cons b after =>
      rw [ahead, List.cons_append, List.cons.injEq] at same
      exact absurd (List.append_eq_nil_iff.1 same.2.symm).2 filled
  · intro ahead
    exact ⟨[octet], List.cons_ne_nil _ _, by rw [ahead, List.nil_append]⟩

theorem EndsIn.split (ends : c.EndsIn (a ++ b)) :
    c.EndsIn a ∨ ∃ c', c.Spans a c' ∧ c'.EndsIn b := by
  obtain ⟨missing, filled, same⟩ := ends
  rcases List.append_eq_append_iff.1 same with ⟨rest, ahead, second⟩ | ⟨more, first, -⟩
  · exact .inr ⟨⟨c.position + a.length, rest⟩, ⟨ahead, rfl⟩, missing, filled, second⟩
  · cases more with
    | nil =>
      rw [List.append_nil] at first
      rw [← first] at same
      refine .inr ⟨⟨c.position + a.length, []⟩, ⟨?_, rfl⟩, missing, filled, ?_⟩
      · rw [List.append_nil, first]
      · exact List.append_cancel_left same
    | cons m more => exact .inl ⟨m :: more, List.cons_ne_nil _ _, first⟩

theorem EndsIn.notMem (ends : c.EndsIn (a ++ [mark])) (absent : mark ∉ a) : mark ∉ c.rest := by
  intro present
  rcases ends.split with ⟨missing, -, rfl⟩ | ⟨c', spans, last⟩
  · exact absent (List.mem_append_left _ present)
  · rw [spans.rest, endsIn_singleton.1 last, List.append_nil] at present
    exact absent present

theorem EndsIn.tail {after : Bytes} (ends : c.EndsIn (octet :: text))
    (ahead : c.rest = mark :: after) :
    mark = octet ∧ (⟨c.position + 1, after⟩ : Cursor).EndsIn text := by
  obtain ⟨missing, filled, same⟩ := ends
  rw [ahead, List.cons_append, List.cons.injEq] at same
  exact ⟨same.1.symm, missing, filled, same.2⟩

/-! ### What has no parts -/

theorem integer_of_endsIn {n : IntegerText} {after : Bytes}
    (ends : (⟨c.position + 1, after⟩ : Cursor).EndsIn (n.octets ++ [101])) :
    c.integer after = .error (.endOfInput c.extent) := by
  have absent : 101 ∉ after := ends.notMem n.end_notMem
  unfold integer
  rcases takeWhile_cases 101 after with ⟨nothing, -⟩ | ⟨front, rest, -, same, -⟩
  · dsimp only
    rw [nothing]
  · exact absurd (same ▸ List.mem_append_right _ List.mem_cons_self) absent

theorem string_of_endsIn {s : StringText} (small : s.octets.length < UInt64.size)
    (ends : c.EndsIn s.text) : c.string = .error (.endOfInput c.extent) := by
  obtain ⟨missing, filled, same⟩ := ends
  unfold string
  dsimp only
  rcases takeWhile_cases 58 c.rest with ⟨nothing, -⟩ | ⟨front, rest, absent, ahead, taken, left⟩
  · rw [nothing]
  · rw [StringText.text, ahead, List.append_assoc, List.cons_append] at same
    obtain ⟨rfl, octets⟩ := append_mark_inj s.colon_notMem absent same
    have told : lengthOf? s.length = some s.octets.length :=
      lengthOf?_eq_some_iff.2 ⟨s.written, s.counted, small⟩
    have short : Bytes.split? s.octets.length rest = none := by
      have some := List.length_pos_iff.2 filled
      rw [Bytes.split?_eq_none_iff, octets, List.length_append]
      omega
    rw [taken, left]
    dsimp only
    rw [told]
    dsimp only
    rw [short]

theorem key_of_endsIn {s : StringText} (small : s.octets.length < UInt64.size)
    (ends : c.EndsIn s.text) : c.key = .error (.endOfInput c.extent) := by
  have read := string_of_endsIn small ends
  rw [key]
  cases ahead : c.rest with
  | nil => rw [extent_of_nil ahead]
  | cons octet after =>
    obtain ⟨lead, rest, text, digit⟩ := s.exists_text_eq
    rw [text] at ends
    obtain ⟨rfl, -⟩ := ends.tail ahead
    dsimp only
    rw [if_pos digit, read]

/-! ### Lists and dictionaries -/

def Passes (element : Cursor → Except DecodeError (α × Cursor)) (limit : Nat) (text : Bytes) :
    Prop :=
  ∀ c c', c.Spans text c' → c.rest.length < limit → ∃ a, element c = .ok (a, c')

/-- A reader says where the input ends, if it ends in `text` and fewer than `limit` octets are
ahead. -/
def Stops (element : Cursor → Except DecodeError (α × Cursor)) (limit : Nat) (text : Bytes) :
    Prop :=
  ∀ c, c.EndsIn text → c.rest.length < limit → element c = .error (.endOfInput c.extent)

theorem EndsIn.headed (ends : c.EndsIn text) (headed : Headed text) :
    c.rest = [] ∨ Headed c.rest := by
  obtain ⟨b, rest, rfl, other⟩ := headed
  obtain ⟨missing, -, same⟩ := ends
  cases ahead : c.rest with
  | nil => exact .inl rfl
  | cons octet after =>
    rw [ahead, List.cons_append, List.cons.injEq] at same
    exact .inr ⟨octet, after, rfl, same.1 ▸ other⟩

theorem scan_of_endsIn {text : β → Bytes} {xs : List β} (headed : ∀ x, Headed (text x))
    (passes : ∀ x ∈ xs, Passes element limit (text x))
    (stops : ∀ x ∈ xs, Stops element limit (text x)) {done : List α}
    (ends : c.EndsIn (xs.flatMap text ++ [101])) (ahead : c.rest.length < limit)
    (rounds : c.rest.length < budget) :
    scan element budget done c = .error (.endOfInput c.extent) := by
  induction xs generalizing budget done c with
  | nil =>
    have nothing := endsIn_singleton.1 ends
    rw [scan_nil nothing, extent_of_nil nothing]
  | cons x xs ih =>
    obtain ⟨budget, rfl⟩ := Nat.exists_eq_succ_of_ne_zero (Nat.ne_zero_of_lt rounds)
    rw [List.flatMap_cons, List.append_assoc] at ends
    rcases ends.split with here | ⟨mid, first, later⟩
    · rcases here.headed (headed x) with nothing | some
      · rw [scan_nil nothing, extent_of_nil nothing]
      · rw [scan_step some, stops x List.mem_cons_self c here ahead]
        rfl
    · have shorter := first.length_lt (headed x)
      obtain ⟨a, read⟩ := passes x List.mem_cons_self c mid first ahead
      have more : scan element budget (a :: done) mid = .error (.endOfInput mid.extent) :=
        ih (fun x member => passes x (List.mem_cons_of_mem _ member))
          (fun x member => stops x (List.mem_cons_of_mem _ member)) later (by omega) (by omega)
      rw [scan_step (first.headed (headed x)), read, ← first.extent]
      exact more

section

variable {item : Cursor → Except DecodeError (Value × Cursor)} {f : StringText × Derivation}

theorem passes_field (told : f.1.octets.length < UInt64.size)
    (passes : Passes item limit f.2.text) : Passes (field item) limit (fieldText f) := by
  intro c c' spans ahead
  obtain ⟨mid, key, rest⟩ := spans.split
  have shorter := key.length_lt (headed_text (.string f.1))
  obtain ⟨v, read⟩ := passes mid c' rest (by omega)
  have named := key_eq_ok_iff.2 ⟨f.1, key, rfl, told⟩
  exact ⟨⟨f.1.octets, v, mid, c'⟩, by simp only [field, named, read]⟩

theorem stops_field (told : f.1.octets.length < UInt64.size)
    (stops : Stops item limit f.2.text) : Stops (field item) limit (fieldText f) := by
  intro c ends ahead
  rcases ends.split with here | ⟨mid, key, later⟩
  · simp only [field, key_of_endsIn told here]
  · have shorter := key.length_lt (headed_text (.string f.1))
    have named := key_eq_ok_iff.2 ⟨f.1, key, rfl, told⟩
    simp only [field, named, stops mid later (by omega), key.extent]

end

/-! ### Values -/

theorem passes_value (budget : Nat) {d : Derivation} (good : Good levels d) :
    Passes (value budget levels) budget d.text := by
  intro c c' spans ahead
  rw [value_of_spans budget levels good.1 c c' spans ahead, read_of_within good.2]
  exact ⟨d.value, rfl⟩

theorem good_of_mem_list {items : List Derivation} (good : Good (levels + 1) (.list items)) :
    ∀ d ∈ items, Good levels d := fun d member =>
  ⟨fits_list.1 good.1 d member, within_succ_iff.1 good.2 d member⟩

theorem good_of_mem_dict {fields : List (StringText × Derivation)}
    (good : Good (levels + 1) (.dict fields)) :
    ∀ f ∈ fields, f.1.octets.length < UInt64.size ∧ Good levels f.2 := fun f member =>
  have ⟨told, fits⟩ := fits_dict.1 good.1 f member
  ⟨told, fits, within_succ_iff.1 good.2 f.2 (List.mem_map_of_mem member)⟩

/-- Where the input ends in the text of a value that could be read, the reader says so. -/
theorem value_of_endsIn (budget : Nat) {d : Derivation} (good : Good levels d) :
    Stops (value budget levels) budget d.text := by
  induction levels generalizing d with
  | zero => exact absurd good.2 not_within_zero
  | succ levels ih =>
    intro c ends rounds
    cases ahead : c.rest with
    | nil => rw [value, ahead, extent_of_nil ahead]
    | cons octet after =>
      have shorter : after.length < budget := by
        rw [ahead, List.length_cons] at rounds
        exact Nat.lt_of_succ_lt rounds
      have extent : (⟨c.position + 1, after⟩ : Cursor).extent = c.extent :=
        (spans_next ahead).extent
      rw [value, ahead]
      dsimp only
      cases d with
      | integer n =>
        obtain ⟨rfl, tail⟩ := ends.tail ahead
        exact integer_of_endsIn tail
      | string s =>
        obtain ⟨lead, rest, text, digit⟩ := s.exists_text_eq
        have read := string_of_endsIn (throughout_iff.1 good.1).1 ends
        rw [Derivation.text, text] at ends
        obtain ⟨rfl, -⟩ := ends.tail ahead
        have apart : octet ≠ 105 ∧ octet ≠ 108 ∧ octet ≠ 100 := by
          refine ⟨?_, ?_, ?_⟩ <;> (rintro rfl; cases digit)
        rw [if_neg apart.1, if_neg apart.2.1, if_neg apart.2.2, if_pos digit, read]
        rfl
      | list items =>
        rw [text_list] at ends
        obtain ⟨rfl, tail⟩ := ends.tail ahead
        have below := good_of_mem_list good
        have stops : Cursor.items (value budget levels) budget [] ⟨c.position + 1, after⟩ =
            .error (.endOfInput c.extent) := by
          rw [items_eq_scan, ← extent]
          exact scan_of_endsIn headed_text (fun d member => passes_value budget (below d member))
            (fun d member => ih (below d member)) tail shorter shorter
        rw [if_neg (by decide), if_pos rfl, stops]
        rfl
      | dict fields =>
        rw [text_dict] at ends
        obtain ⟨rfl, tail⟩ := ends.tail ahead
        have below := good_of_mem_dict good
        have stops : Cursor.fields (value budget levels) budget [] ⟨c.position + 1, after⟩ =
            .error (.endOfInput c.extent) := by
          rw [fields_eq_scan, ← extent]
          exact scan_of_endsIn headed_fieldText
            (fun f member =>
              passes_field (below f member).1 (passes_value budget (below f member).2))
            (fun f member => stops_field (below f member).1 (ih (below f member).2))
            tail shorter shorter
        rw [if_neg (by decide), if_neg (by decide), if_pos rfl, stops]
        rfl

theorem next_of_endsIn {d : Derivation} (good : Good (maxDepth + 1) d) (ends : c.EndsIn d.text) :
    c.next = .error (.endOfInput c.extent) :=
  value_of_endsIn _ good c ends (Nat.lt_succ_self _)

end Cursor

/-- Of the text of a value that could be read no part that is cut off is decoded, and the fault is
that the input ended where it was cut. -/
theorem decode_take {d : Derivation} (good : Cursor.Good (maxDepth + 1) d) {n : Nat}
    (cut : n < d.text.length) : decode (d.text.take n) = .error (.endOfInput n) := by
  have size : (d.text.take n).length = n := List.length_take_of_le (Nat.le_of_lt cut)
  have ends : (Cursor.start (d.text.take n)).EndsIn d.text := by
    refine ⟨d.text.drop n, fun nothing => ?_, (List.take_append_drop n d.text).symm⟩
    exact absurd (List.drop_eq_nil_iff.1 nothing) (Nat.not_le.2 cut)
  have extent : (Cursor.start (d.text.take n)).extent = n := (Nat.zero_add _).trans size
  rw [decode, Cursor.next_of_endsIn good ends, extent]

end Swarm.Bencode
