import Swarm.Proofs.Bencode.Nesting
import Swarm.Proofs.Bencode.Numerals
import Swarm.Text.Split

/-!
The grammar of bencode. A derivation is a tree of the grammar: it has everything that stands in the
text, in the order in which it stands there, so the fields of a dictionary come in any order and a
key may come twice. `text` spells a derivation and `value` says what it stands for.

The grammar is unambiguous: no text starts with the texts of two derivations
(`Derivation.text_append_inj`).
-/

namespace Swarm.Bencode

structure IntegerText where
  octets : Bytes
  written : Decimal.IsInteger octets

/-- A string as it is written: a numeral, and behind a colon as many octets as it says. -/
structure StringText where
  length : Bytes
  octets : Bytes
  written : Decimal.IsNumeral length
  counted : Decimal.value length = octets.length

inductive Derivation where
  | integer (n : IntegerText)
  | string (s : StringText)
  | list (items : List Derivation)
  | dict (fields : List (StringText × Derivation))

def IntegerText.value (n : IntegerText) : Int := Decimal.signedValue n.octets

def StringText.text (s : StringText) : Bytes := s.length ++ 58 :: s.octets

namespace Derivation

mutual

def text : Derivation → Bytes
  | integer n => 105 :: (n.octets ++ [101])
  | string s => s.text
  | list items => 108 :: (itemsText items ++ [101])
  | dict fields => 100 :: (fieldsText fields ++ [101])

def itemsText : List Derivation → Bytes
  | [] => []
  | d :: rest => d.text ++ itemsText rest

def fieldsText : List (StringText × Derivation) → Bytes
  | [] => []
  | (k, d) :: rest => k.text ++ (d.text ++ fieldsText rest)

end

mutual

/-- What the text stands for; of two fields with one key the later counts. -/
def value : Derivation → Value
  | integer n => .integer n.value
  | string s => .bytes s.octets
  | list items => .list (itemValues items)
  | dict fields => .dict (Entries.ofList (fieldEntries fields))

def itemValues : List Derivation → List Value
  | [] => []
  | d :: rest => d.value :: itemValues rest

def fieldEntries : List (StringText × Derivation) → Entries
  | [] => []
  | (k, d) :: rest => (k.octets, d.value) :: fieldEntries rest

end

def fieldText (f : StringText × Derivation) : Bytes := f.1.text ++ f.2.text

def entry (f : StringText × Derivation) : Bytes × Value := (f.1.octets, f.2.value)

theorem text_list (items : List Derivation) :
    (list items).text = 108 :: (items.flatMap text ++ [101]) := by
  have all : itemsText items = items.flatMap text := by
    induction items with
    | nil => rfl
    | cons d rest ih => rw [itemsText, ih, List.flatMap_cons]
  rw [text, all]

theorem text_dict (fields : List (StringText × Derivation)) :
    (dict fields).text = 100 :: (fields.flatMap fieldText ++ [101]) := by
  have all : fieldsText fields = fields.flatMap fieldText := by
    induction fields with
    | nil => rfl
    | cons f rest ih =>
      rw [fieldsText, ih, List.flatMap_cons, fieldText, List.append_assoc]
  rw [text, all]

theorem value_list (items : List Derivation) : (list items).value = .list (items.map value) := by
  have all : itemValues items = items.map value := by
    induction items with
    | nil => rfl
    | cons d rest ih => rw [itemValues, ih, List.map_cons]
  rw [value, all]

theorem value_dict (fields : List (StringText × Derivation)) :
    (dict fields).value = .dict (Entries.ofList (fields.map entry)) := by
  have all : fieldEntries fields = fields.map entry := by
    induction fields with
    | nil => rfl
    | cons f rest ih => rw [fieldEntries, ih, List.map_cons, entry]
  rw [value, all]

def children : Derivation → List Derivation
  | list items => items
  | dict fields => fields.map Prod.snd
  | _ => []

/-- Induction over derivations: a property of all that a list or a dictionary is made of passes on
to it. -/
@[elab_as_elim, induction_eliminator]
theorem induct {motive : Derivation → Prop} (integer : ∀ n, motive (.integer n))
    (string : ∀ s, motive (.string s))
    (list : ∀ items, (∀ d ∈ items, motive d) → motive (.list items))
    (dict : ∀ fields : List (StringText × Derivation),
      (∀ f ∈ fields, motive f.2) → motive (.dict fields)) :
    ∀ d, motive d
  | .integer n => integer n
  | .string s => string s
  | .list items => list items fun d _ => induct integer string list dict d
  | .dict fields => dict fields fun f _ => induct integer string list dict f.2
decreasing_by
  · have smaller := List.sizeOf_lt_of_mem ‹d ∈ items›
    rw [Derivation.list.sizeOf_spec]
    omega
  · obtain ⟨k, d⟩ := f
    have smaller := List.sizeOf_lt_of_mem ‹(k, d) ∈ fields›
    rw [Prod.mk.sizeOf_spec] at smaller
    rw [Derivation.dict.sizeOf_spec]
    show sizeOf d < _
    omega

/-! ### First octets -/

end Derivation

def Headed (text : Bytes) : Prop := ∃ b rest, text = b :: rest ∧ b ≠ 101

theorem Headed.append {text : Bytes} (headed : Headed text) (r : Bytes) : Headed (text ++ r) := by
  obtain ⟨b, rest, rfl, other⟩ := headed
  exact ⟨b, rest ++ r, rfl, other⟩

theorem Headed.ne_end {text r : Bytes} (headed : Headed text) : text ≠ 101 :: r := by
  obtain ⟨b, rest, rfl, other⟩ := headed
  exact fun same => other (List.cons.inj same).1

namespace Derivation

def mark : Derivation → Option UInt8
  | integer _ => some 105
  | string _ => none
  | list _ => some 108
  | dict _ => some 100

end Derivation

theorem StringText.exists_text_eq (s : StringText) :
    ∃ b rest, s.text = b :: rest ∧ Decimal.isDigit b = true := by
  obtain ⟨filled, digits, -⟩ := Decimal.isNumeral_iff.1 s.written
  obtain ⟨b, rest, same⟩ := List.exists_cons_of_ne_nil filled
  rw [same] at digits
  exact ⟨b, rest ++ 58 :: s.octets, by rw [text, same, List.cons_append],
    digits b List.mem_cons_self⟩

namespace Derivation

theorem exists_text_eq (d : Derivation) :
    ∃ b rest, d.text = b :: rest ∧
      (d.mark = some b ∨ d.mark = none ∧ Decimal.isDigit b = true) := by
  cases d with
  | string s =>
    obtain ⟨b, rest, same, digit⟩ := s.exists_text_eq
    exact ⟨b, rest, same, .inr ⟨rfl, digit⟩⟩
  | _ => exact ⟨_, _, rfl, .inl rfl⟩

theorem not_isDigit_of_mark {d : Derivation} {b : UInt8} (marked : d.mark = some b) :
    Decimal.isDigit b = false := by
  cases d <;> cases marked <;> rfl

theorem mark_eq_of_append_eq {d e : Derivation} {r r' : Bytes}
    (same : d.text ++ r = e.text ++ r') : d.mark = e.mark := by
  obtain ⟨b, rest, text, led⟩ := d.exists_text_eq
  obtain ⟨b', rest', text', led'⟩ := e.exists_text_eq
  rw [text, text', List.cons_append, List.cons_append, List.cons.injEq] at same
  obtain ⟨rfl, -⟩ := same
  rcases led with led | ⟨led, digit⟩ <;> rcases led' with led' | ⟨led', digit'⟩
  · rw [led, led']
  · rw [not_isDigit_of_mark led] at digit'
    cases digit'
  · rw [not_isDigit_of_mark led'] at digit
    cases digit
  · rw [led, led']

theorem headed_text (d : Derivation) : Headed d.text := by
  obtain ⟨b, rest, text, led⟩ := d.exists_text_eq
  refine ⟨b, rest, text, ?_⟩
  rintro rfl
  rcases led with led | ⟨-, digit⟩
  · cases d <;> cases led
  · cases digit

theorem headed_fieldText (f : StringText × Derivation) : Headed (fieldText f) :=
  (headed_text (string f.1)).append f.2.text

end Derivation

/-! ### Unambiguity -/

theorem append_mark_inj {mark : UInt8} {front front' rest rest' : Bytes} (absent : mark ∉ front)
    (absent' : mark ∉ front') (same : front ++ mark :: rest = front' ++ mark :: rest') :
    front = front' ∧ rest = rest' := by
  have fronts : front = front' := by
    rw [← Text.takeWhile_append_mark absent rest, same,
      Text.takeWhile_append_mark absent' rest']
  rw [fronts] at same
  exact ⟨fronts, (List.cons.inj (List.append_cancel_left same)).2⟩

theorem IntegerText.end_notMem (n : IntegerText) : (101 : UInt8) ∉ n.octets := by
  obtain ⟨octets, written⟩ := n
  intro member
  cases written with
  | zero => exact absurd member (by decide)
  | positive positive => exact absurd (positive.isDigit 101 member) (by decide)
  | negative positive =>
    rcases List.mem_cons.1 member with wrong | member
    · exact absurd wrong (by decide)
    · exact absurd (positive.isDigit 101 member) (by decide)

theorem StringText.colon_notMem (s : StringText) : (58 : UInt8) ∉ s.length :=
  fun member => absurd (s.written.isDigit 58 member) (by decide)

theorem StringText.text_append_inj {s t : StringText} {r r' : Bytes}
    (same : s.text ++ r = t.text ++ r') : s = t ∧ r = r' := by
  simp only [text, List.append_assoc, List.cons_append] at same
  obtain ⟨lengths, tails⟩ := append_mark_inj s.colon_notMem t.colon_notMem same
  have sizes : s.octets.length = t.octets.length := by rw [← s.counted, ← t.counted, lengths]
  obtain ⟨octets, rests⟩ := List.append_inj tails sizes
  cases s
  cases t
  cases lengths
  cases octets
  exact ⟨rfl, rests⟩

/-- Parts up to an end mark can be told apart if none of them starts with that mark. -/
theorem flatMap_append_inj {α : Type} {text : α → Bytes} {xs ys : List α} {r r' : Bytes}
    (headed : ∀ x, Headed (text x))
    (apart : ∀ x ∈ xs, ∀ y r r', text x ++ r = text y ++ r' → x = y ∧ r = r')
    (same : xs.flatMap text ++ 101 :: r = ys.flatMap text ++ 101 :: r') : xs = ys ∧ r = r' := by
  induction xs generalizing ys with
  | nil =>
    cases ys with
    | nil => exact ⟨rfl, (List.cons.inj same).2⟩
    | cons y ys =>
      rw [List.flatMap_cons, List.append_assoc] at same
      exact absurd same.symm ((headed y).append _).ne_end
  | cons x xs ih =>
    cases ys with
    | nil =>
      rw [List.flatMap_cons, List.append_assoc] at same
      exact absurd same ((headed x).append _).ne_end
    | cons y ys =>
      rw [List.flatMap_cons, List.flatMap_cons, List.append_assoc, List.append_assoc] at same
      obtain ⟨rfl, tails⟩ := apart x List.mem_cons_self y _ _ same
      obtain ⟨rfl, rests⟩ :=
        ih (fun x member => apart x (List.mem_cons_of_mem _ member)) tails
      exact ⟨rfl, rests⟩

namespace Derivation

theorem text_append_inj {d e : Derivation} {r r' : Bytes} (same : d.text ++ r = e.text ++ r') :
    d = e ∧ r = r' := by
  -- both are of one kind, so in each case of the induction only that kind is left for the other
  have marks := mark_eq_of_append_eq same
  induction d generalizing e r r' with
  | integer n =>
    cases e with
    | integer m =>
      simp only [text, List.cons_append, List.append_assoc, List.nil_append, List.cons.injEq,
        true_and] at same
      obtain ⟨octets, rests⟩ := append_mark_inj n.end_notMem m.end_notMem same
      cases n
      cases m
      cases octets
      exact ⟨rfl, rests⟩
    | _ => cases marks
  | string s =>
    cases e with
    | string t =>
      obtain ⟨rfl, rests⟩ := StringText.text_append_inj same
      exact ⟨rfl, rests⟩
    | _ => cases marks
  | list items ih =>
    cases e with
    | list items' =>
      simp only [text_list, List.cons_append, List.append_assoc, List.nil_append, List.cons.injEq,
        true_and] at same
      obtain ⟨rfl, rests⟩ := flatMap_append_inj headed_text (fun d member e r r' equal =>
        ih d member equal (mark_eq_of_append_eq equal)) same
      exact ⟨rfl, rests⟩
    | _ => cases marks
  | dict fields ih =>
    cases e with
    | dict fields' =>
      simp only [text_dict, List.cons_append, List.append_assoc, List.nil_append, List.cons.injEq,
        true_and] at same
      have apart : ∀ f ∈ fields, ∀ g r r',
          fieldText f ++ r = fieldText g ++ r' → f = g ∧ r = r' := by
        intro f member g r r' equal
        rw [fieldText, fieldText, List.append_assoc, List.append_assoc] at equal
        obtain ⟨key, equal⟩ := StringText.text_append_inj equal
        obtain ⟨below, rests⟩ := ih f member equal (mark_eq_of_append_eq equal)
        exact ⟨Prod.ext key below, rests⟩
      obtain ⟨rfl, rests⟩ := flatMap_append_inj headed_fieldText apart same
      exact ⟨rfl, rests⟩
    | _ => cases marks

theorem eq_of_text_eq {d e : Derivation} (same : d.text = e.text) : d = e :=
  (text_append_inj (congrArg (· ++ []) same)).1

end Derivation

end Swarm.Bencode
