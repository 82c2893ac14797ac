import Swarm.Proofs.Bencode.Grammar

/-!
The octets between two cursors, and what is read there that has no parts of its own. An integer, a
string or a key is read exactly where the text of one stands; that the readers look for the next
end mark or colon in all of the input, however far ahead, makes no difference, for neither occurs
inside a numeral.
-/

namespace Swarm.Bencode

namespace Cursor

structure Spans (c : Cursor) (text : Bytes) (c' : Cursor) : Prop where
  rest : c.rest = text ++ c'.rest
  position : c'.position = c.position + text.length

variable {c c' c'' : Cursor} {a b text : Bytes}

theorem Spans.append (first : c.Spans a c') (second : c'.Spans b c'') : c.Spans (a ++ b) c'' := by
  constructor
  · rw [first.rest, second.rest, List.append_assoc]
  · rw [second.position, first.position, List.length_append, Nat.add_assoc]

theorem Spans.split (whole : c.Spans (a ++ b) c'') : ∃ c', c.Spans a c' ∧ c'.Spans b c'' := by
  refine ⟨⟨c.position + a.length, b ++ c''.rest⟩, ⟨?_, rfl⟩, ⟨rfl, ?_⟩⟩
  · rw [whole.rest, List.append_assoc]
  · rw [whole.position, List.length_append, Nat.add_assoc]

theorem Spans.eq (first : c.Spans a c') (second : c.Spans a c'') : c' = c'' := by
  obtain ⟨position, rest⟩ := c'
  obtain ⟨position', rest'⟩ := c''
  cases first.position.trans second.position.symm
  cases List.append_cancel_left (first.rest.symm.trans second.rest)
  rfl

theorem Spans.length (spans : c.Spans text c') :
    c.rest.length = text.length + c'.rest.length := by
  rw [spans.rest, List.length_append]

theorem spans_next {octet : UInt8} {after : Bytes} (ahead : c.rest = octet :: after) :
    c.Spans [octet] ⟨c.position + 1, after⟩ :=
  ⟨ahead, rfl⟩

theorem Spans.headed (spans : c.Spans text c') (headed : Headed text) : Headed c.rest := by
  rw [spans.rest]
  exact headed.append c'.rest

theorem Spans.position_lt (spans : c.Spans text c') (headed : Headed text) :
    c.position < c'.position := by
  obtain ⟨b, rest, rfl, -⟩ := headed
  rw [spans.position, List.length_cons]
  omega

theorem Spans.length_lt (spans : c.Spans text c') (headed : Headed text) :
    c'.rest.length < c.rest.length := by
  obtain ⟨b, rest, rfl, -⟩ := headed
  rw [spans.length, List.length_cons]
  omega

/-! ### Marks -/

theorem takeWhile_cases (mark : UInt8) (b : Bytes) :
    b.drop (b.takeWhile (· != mark)).length = [] ∧ mark ∉ b ∨
    ∃ front rest, mark ∉ front ∧ b = front ++ mark :: rest ∧
      b.takeWhile (· != mark) = front ∧ b.drop front.length = mark :: rest := by
  by_cases present : mark ∈ b
  · obtain ⟨front, rest, rfl, absent⟩ := List.eq_append_cons_of_mem present
    exact .inr ⟨front, rest, absent, rfl, Text.takeWhile_append_mark absent rest, List.drop_left⟩
  · exact .inl ⟨by rw [Text.takeWhile_of_notMem present, List.drop_length], present⟩

theorem integer_eq_ok_iff {octet : UInt8} {after : Bytes} (ahead : c.rest = octet :: after)
    {v : Value} : c.integer after = .ok (v, c') ↔
      ∃ n : IntegerText, c.Spans (octet :: (n.octets ++ [101])) c' ∧ v = .integer n.value := by
  unfold integer
  dsimp only
  rcases takeWhile_cases 101 after with ⟨nothing, absent⟩ | ⟨front, rest, absent, rfl, taken, left⟩
  · rw [nothing]
    refine iff_of_false (by simp) ?_
    rintro ⟨n, spans, -⟩
    have tail := (List.cons.inj (ahead.symm.trans spans.rest)).2
    exact absent (tail ▸ by simp)
  · rw [taken, left]
    dsimp only
    -- an integer has no end mark in it, so the next one ahead is its own
    have inside : ∀ n : IntegerText, c.Spans (octet :: (n.octets ++ [101])) c' →
        front = n.octets := by
      intro n spans
      have tail : front ++ 101 :: rest = n.octets ++ [101] ++ c'.rest :=
        (List.cons.inj (ahead.symm.trans spans.rest)).2
      rw [List.append_assoc] at tail
      exact (append_mark_inj absent n.end_notMem tail).1
    cases read : integerOf front with
    | error fault =>
      refine iff_of_false (by simp) ?_
      rintro ⟨n, spans, -⟩
      cases inside n spans
      cases read.symm.trans (integerOf_eq_ok_iff.2 ⟨n.written, rfl⟩)
    | ok m =>
      obtain ⟨written, rfl⟩ := integerOf_eq_ok_iff.1 read
      have own : c.Spans (octet :: (front ++ [101])) ⟨c.position + front.length + 2, rest⟩ := by
        refine ⟨by rw [ahead]; simp, ?_⟩
        simp only [List.length_cons, List.length_append, List.length_nil]
        omega
      constructor
      · intro same
        cases same
        exact ⟨⟨front, written⟩, own, rfl⟩
      · rintro ⟨n, spans, rfl⟩
        cases inside n spans
        cases own.eq spans
        rfl

/-- What is read as a string is a string behind its length, which a 64-bit word tells. -/
theorem string_eq_ok_iff {b : Bytes} : c.string = .ok (b, c') ↔
    ∃ s : StringText, c.Spans s.text c' ∧ s.octets = b ∧ b.length < UInt64.size := by
  unfold string
  dsimp only
  rcases takeWhile_cases 58 c.rest with
    ⟨nothing, absent⟩ | ⟨front, rest, absent, ahead, taken, left⟩
  · rw [nothing]
    refine iff_of_false (by simp) ?_
    rintro ⟨s, spans, -⟩
    exact absent (spans.rest ▸ by simp [StringText.text])
  · rw [taken, left]
    dsimp only
    have parts : ∀ s : StringText, c.Spans s.text c' → s.length = front ∧
        rest = s.octets ++ c'.rest := by
      intro s spans
      have same := ahead.symm.trans spans.rest
      rw [StringText.text, List.append_assoc, List.cons_append] at same
      obtain ⟨rfl, tail⟩ := append_mark_inj absent s.colon_notMem same
      exact ⟨rfl, tail⟩
    cases told : lengthOf? front with
    | none =>
      refine iff_of_false (by simp) ?_
      rintro ⟨s, spans, rfl, small⟩
      obtain ⟨rfl, -⟩ := parts s spans
      cases told.symm.trans (lengthOf?_eq_some_iff.2 ⟨s.written, s.counted, small⟩)
    | some n =>
      obtain ⟨written, counted, small⟩ := lengthOf?_eq_some_iff.1 told
      dsimp only
      cases split : Bytes.split? n rest with
      | none =>
        refine iff_of_false (by simp) ?_
        rintro ⟨s, spans, rfl, -⟩
        obtain ⟨rfl, rfl⟩ := parts s spans
        have short := Bytes.split?_eq_none_iff.1 split
        rw [← counted, s.counted, List.length_append] at short
        omega
      | some halves =>
        obtain ⟨octets, behind⟩ := halves
        obtain ⟨full, rfl⟩ := Bytes.split?_eq_some_iff.1 split
        have own : c.Spans (StringText.text ⟨front, octets, written, counted.trans full.symm⟩)
            ⟨c.position + front.length + 1 + n, behind⟩ := by
          refine ⟨by rw [ahead, StringText.text, List.append_assoc, List.cons_append], ?_⟩
          simp only [StringText.text, List.length_append, List.length_cons, full]
          omega
        constructor
        · intro same
          cases same
          exact ⟨_, own, rfl, full ▸ small⟩
        · rintro ⟨s, spans, rfl, -⟩
          obtain ⟨rfl, same⟩ := parts s spans
          have sizes : octets.length = s.octets.length := by rw [full, ← counted, s.counted]
          cases (List.append_inj same sizes).1
          cases own.eq spans
          rfl

theorem key_eq_ok_iff {b : Bytes} : c.key = .ok (b, c') ↔
    ∃ s : StringText, c.Spans s.text c' ∧ s.octets = b ∧ b.length < UInt64.size := by
  rw [← string_eq_ok_iff, key]
  cases ahead : c.rest with
  | nil =>
    refine iff_of_false (by simp) fun read => ?_
    obtain ⟨s, spans, -⟩ := string_eq_ok_iff.1 read
    obtain ⟨octet, rest, text, -⟩ := s.exists_text_eq
    rw [spans.rest, text] at ahead
    cases ahead
  | cons octet after =>
    dsimp only
    split
    next => rfl
    next other =>
      refine iff_of_false (by simp) fun read => ?_
      obtain ⟨s, spans, -⟩ := string_eq_ok_iff.1 read
      obtain ⟨octet', rest, text, digit⟩ := s.exists_text_eq
      rw [spans.rest, text] at ahead
      cases (List.cons.inj ahead).1
      exact other digit

end Cursor

end Swarm.Bencode
