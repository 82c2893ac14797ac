import Swarm.Proofs.Bencode.Limits
import Swarm.Proofs.Bencode.Scanning

/-!
What is read as a value. A reader that gives a value has read the text of a derivation, and in front
of the text of a derivation a reader gives what the derivation stands for, or says that it is nested
too deep (`Cursor.value_sound`, `Cursor.value_of_spans`).
-/

namespace Swarm.Bencode

namespace Cursor

open Swarm.Bencode.Derivation

variable {c c' : Cursor} {item : Cursor → Except DecodeError (Value × Cursor)}
  {good : Derivation → Prop} {levels budget limit : Nat} {after : Bytes} {v : Value}

/-! ### What has been read -/

def Sound (item : Cursor → Except DecodeError (Value × Cursor)) (good : Derivation → Prop) :
    Prop :=
  Reads item text fun v d => good d ∧ d.value = v

def Field.entry (f : Field) : Bytes × Value := (f.key, f.value)

structure Field.Matches (good : Derivation → Prop) (f : Field) (d : StringText × Derivation) :
    Prop where
  told : d.1.octets.length < UInt64.size
  good : good d.2
  entry : f.entry = Derivation.entry d
  raw : f.raw = d.2.text

theorem Field.Matches.key {f : Field} {d : StringText × Derivation} (same : f.Matches good d) :
    f.key = d.1.octets :=
  congrArg Prod.fst same.entry

theorem Spans.raw {f : Field} {text : Bytes} (spans : f.before.Spans text f.behind) :
    f.raw = text := by
  rw [Field.raw, spans.position, Nat.add_sub_cancel_left, spans.rest, List.take_left]

theorem field_eq_ok {f : Field} (read : field item c = .ok (f, c')) :
    c.key = .ok (f.key, f.before) ∧ item f.before = .ok (f.value, f.behind) ∧ c' = f.behind := by
  unfold field at read
  split at read
  next => cases read
  next k before named =>
    split at read
    next => cases read
    next v behind first =>
      cases read
      exact ⟨named, first, rfl⟩

theorem Sound.field (sound : Sound item good) :
    Reads (field item) fieldText (Field.Matches good) := by
  intro c f c' read
  obtain ⟨named, first, rfl⟩ := field_eq_ok read
  obtain ⟨s, key, same, small⟩ := key_eq_ok_iff.1 named
  obtain ⟨d, ⟨fine, value⟩, spans⟩ := sound _ _ _ first
  exact ⟨(s, d), ⟨same ▸ small, fine, Prod.ext same.symm value.symm, spans.raw⟩,
    key.append spans⟩

theorem Sound.items (sound : Sound item good) {vs : List Value}
    (read : items item budget [] c = .ok (vs, c')) :
    ∃ ds : List Derivation, (∀ d ∈ ds, good d) ∧ c.Spans (ds.flatMap text ++ [101]) c' ∧
      vs = ds.map Derivation.value := by
  rw [items_eq_scan] at read
  obtain ⟨pairs, rfl, all, spans⟩ := Reads.scan sound read
  refine ⟨pairs.map Prod.snd, List.forall_mem_map.2 fun p member => (all p member).1, spans, ?_⟩
  rw [List.map_map]
  exact List.map_congr_left fun p member => (all p member).2.symm

theorem Sound.fields (sound : Sound item good) {fs : List Field}
    (read : fields item budget [] c = .ok (fs, c')) :
    ∃ pairs : List (Field × (StringText × Derivation)), fs = pairs.map Prod.fst ∧
      (∀ p ∈ pairs, Field.Matches good p.1 p.2) ∧
      c.Spans ((pairs.map Prod.snd).flatMap fieldText ++ [101]) c' := by
  rw [fields_eq_scan] at read
  exact sound.field.scan read

theorem map_entry_eq {pairs : List (Field × (StringText × Derivation))}
    (all : ∀ p ∈ pairs, Field.Matches good p.1 p.2) :
    (pairs.map Prod.fst).map Field.entry = (pairs.map Prod.snd).map Derivation.entry := by
  rw [List.map_map, List.map_map]
  exact List.map_congr_left fun p member => (all p member).entry

theorem map_eq_ok_iff {α β ε : Type} {r : Except ε α} {f : α → β} {b : β} :
    r.map f = .ok b ↔ ∃ a, r = .ok a ∧ f a = b := by
  cases r <;> simp [Except.map]

def Good (levels : Nat) (d : Derivation) : Prop := d.Fits ∧ Within children levels d

theorem good_of_children_eq_nil {d : Derivation} (leaf : d.children = []) (told : d.Told) :
    Good (levels + 1) d :=
  ⟨throughout_of_children_eq_nil leaf told, within_of_children_eq_nil leaf⟩

theorem good_list {ds : List Derivation} (all : ∀ d ∈ ds, Good levels d) :
    Good (levels + 1) (.list ds) :=
  ⟨fits_list.2 fun d member => (all d member).1,
    within_succ_iff.2 fun d member => (all d member).2⟩

theorem good_dict {ds : List (StringText × Derivation)}
    (all : ∀ d ∈ ds, d.1.octets.length < UInt64.size ∧ Good levels d.2) :
    Good (levels + 1) (.dict ds) :=
  ⟨fits_dict.2 fun d member => ⟨(all d member).1, (all d member).2.1⟩,
    within_succ_iff.2 (List.forall_mem_map.2 fun d member => (all d member).2.2)⟩

theorem Sound.list (sound : Sound item (Good levels)) (ahead : c.rest = 108 :: after)
    (read : ((Cursor.items item budget [] ⟨c.position + 1, after⟩).map fun r =>
      (Value.list r.1, r.2)) = .ok (v, c')) :
    ∃ d, (Good (levels + 1) d ∧ d.value = v) ∧ c.Spans d.text c' := by
  obtain ⟨r, inner, whole⟩ := map_eq_ok_iff.1 read
  cases whole
  obtain ⟨ds, all, spans, values⟩ := sound.items inner
  refine ⟨.list ds, ⟨good_list all, ?_⟩, ?_⟩
  · rw [value_list, values]
  · rw [text_list]
    exact (spans_next ahead).append spans

theorem Sound.dict (sound : Sound item (Good levels)) (ahead : c.rest = 100 :: after)
    (read : ((Cursor.fields item budget [] ⟨c.position + 1, after⟩).map fun r =>
      (Value.dict (Entries.ofList (r.1.map fun f => (f.key, f.value))), r.2)) = .ok (v, c')) :
    ∃ d, (Good (levels + 1) d ∧ d.value = v) ∧ c.Spans d.text c' := by
  obtain ⟨r, inner, whole⟩ := map_eq_ok_iff.1 read
  cases whole
  obtain ⟨pairs, same, all, spans⟩ := sound.fields inner
  refine ⟨.dict (pairs.map Prod.snd), ⟨good_dict ?_, ?_⟩, ?_⟩
  · exact List.forall_mem_map.2 fun p member => ⟨(all p member).told, (all p member).good⟩
  · rw [value_dict, ← map_entry_eq all, same]
    rfl
  · rw [text_dict]
    exact (spans_next ahead).append spans

theorem value_sound (budget levels : Nat) : Sound (value budget levels) (Good levels) := by
  induction levels with
  | zero => intro c v c' read; cases read
  | succ levels ih =>
    intro c v c' read
    rw [value] at read
    split at read
    next => cases read
    next octet after ahead =>
      split_ifs at read with isInteger isList isDict isString
      · obtain ⟨n, spans, rfl⟩ := (integer_eq_ok_iff ahead).1 read
        rw [isInteger] at spans
        exact ⟨.integer n, ⟨good_of_children_eq_nil rfl trivial, rfl⟩, spans⟩
      · exact ih.list (isList ▸ ahead) read
      · exact ih.dict (isDict ▸ ahead) read
      · obtain ⟨r, inner, whole⟩ := map_eq_ok_iff.1 read
        cases whole
        obtain ⟨s, spans, same, small⟩ := string_eq_ok_iff.1 inner
        rw [← same] at small
        exact ⟨.string s, ⟨good_of_children_eq_nil rfl small, congrArg Value.bytes same⟩, spans⟩

/-! ### What will be read -/

theorem answers_field {result : Derivation → Except DecodeError Value} {d : StringText × Derivation}
    (told : d.1.octets.length < UInt64.size)
    (answers : Answers item limit d.2.text (result d.2)) :
    Answers (fun c => (field item c).map fun r => (r.1.entry, r.2)) limit (fieldText d)
      (entryWith result d) := by
  intro c c' spans ahead
  obtain ⟨before, first, second⟩ := spans.split
  have named := key_eq_ok_iff.2 ⟨d.1, first, rfl, told⟩
  have shorter := first.length_lt (headed_text (.string d.1))
  have given := answers before c' second (by omega)
  dsimp only
  rw [field, named, entryWith]
  dsimp only
  rw [given]
  cases result d.2 <;> rfl

theorem fields_of_spans {result : Derivation → Except DecodeError Value}
    {ds : List (StringText × Derivation)}
    (answers : ∀ d ∈ ds, d.1.octets.length < UInt64.size ∧
      Answers item limit d.2.text (result d.2))
    (spans : c.Spans (ds.flatMap fieldText ++ [101]) c') (ahead : c.rest.length < limit)
    (rounds : c.rest.length < budget) :
    ((fields item budget [] c).map fun r => (r.1.map Field.entry, r.2)) =
      (ds.mapM (entryWith result)).map fun entries => (entries, c') := by
  rw [fields_eq_scan, scan_map]
  exact scan_of_spans headed_fieldText
    (fun d member => answers_field (answers d member).1 (answers d member).2) spans ahead rounds

/-- In front of the text of a derivation the value is read that it stands for, unless it has more
levels than allowed. -/
theorem value_of_spans (budget levels : Nat) {d : Derivation} (fits : d.Fits) :
    Answers (value budget levels) budget d.text (d.read levels) := by
  induction levels generalizing d with
  | zero => exact fun _ _ _ _ => rfl
  | succ levels ih =>
    intro c c' spans ahead
    cases d with
    | integer n =>
      have filled : c.rest = 105 :: (n.octets ++ [101] ++ c'.rest) := spans.rest
      rw [value, filled]
      exact (integer_eq_ok_iff filled).2 ⟨n, spans, rfl⟩
    | string s =>
      obtain ⟨octet, rest, text, digit⟩ := s.exists_text_eq
      have filled : c.rest = octet :: (rest ++ c'.rest) := by
        rw [spans.rest, Derivation.text, text, List.cons_append]
      have apart : octet ≠ 105 ∧ octet ≠ 108 ∧ octet ≠ 100 := by
        refine ⟨?_, ?_, ?_⟩ <;> (rintro rfl; cases digit)
      rw [value, filled]
      dsimp only
      rw [if_neg apart.1, if_neg apart.2.1, if_neg apart.2.2, if_pos digit,
        string_eq_ok_iff.2 ⟨s, spans, rfl, (throughout_iff.1 fits).1⟩]
      rfl
    | list items =>
      rw [text_list] at spans
      obtain ⟨mid, first, spans⟩ := Spans.split (a := [108]) spans
      have filled : c.rest = 108 :: mid.rest := first.rest
      rw [filled, List.length_cons] at ahead
      have inner : Cursor.items (value budget levels) budget [] mid =
          (items.mapM (Derivation.read levels)).map fun vs => (vs, c') := by
        rw [items_eq_scan]
        exact scan_of_spans headed_text (fun d member => ih (fits_list.1 fits d member)) spans
          (by omega) (by omega)
      rw [value, filled]
      dsimp only
      rw [if_neg (by decide), if_pos rfl, (spans_next filled).eq first, inner, Derivation.read]
      cases items.mapM (Derivation.read levels) <;> rfl
    | dict fields =>
      rw [text_dict] at spans
      obtain ⟨mid, first, spans⟩ := Spans.split (a := [100]) spans
      have filled : c.rest = 100 :: mid.rest := first.rest
      rw [filled, List.length_cons] at ahead
      have answers : ∀ f ∈ fields, f.1.octets.length < UInt64.size ∧
          Answers (value budget levels) budget f.2.text (f.2.read levels) := fun f member =>
        ⟨(fits_dict.1 fits f member).1, ih (fits_dict.1 fits f member).2⟩
      have inner : ((Cursor.fields (value budget levels) budget [] mid).map fun r =>
            (r.1.map Field.entry, r.2)) =
          (fields.mapM (entryWith (Derivation.read levels))).map fun entries => (entries, c') :=
        fields_of_spans answers spans (by omega) (by omega)
      rw [value, filled]
      dsimp only
      rw [if_neg (by decide), if_neg (by decide), if_pos rfl, (spans_next filled).eq first,
        Derivation.read]
      have whole := congrArg (Except.map fun r => (Value.dict (Entries.ofList r.1), r.2)) inner
      refine Eq.trans ?_ (whole.trans ?_)
      · cases Cursor.fields (value budget levels) budget [] mid <;> rfl
      · cases fields.mapM (entryWith (Derivation.read levels)) <;> rfl

/-! ### The next value -/

theorem next_of_spans {d : Derivation} (fits : d.Fits) (spans : c.Spans d.text c') :
    c.next = (d.read (maxDepth + 1)).map fun v => (v, c') :=
  value_of_spans _ _ fits c c' spans (Nat.lt_succ_self _)

/-- The next value is read where a derivation stands that is not nested too deep. -/
theorem next_eq_ok_iff : c.next = .ok (v, c') ↔
    ∃ d : Derivation, d.Fits ∧ Within children (maxDepth + 1) d ∧ c.Spans d.text c' ∧
      d.value = v := by
  constructor
  · intro read
    obtain ⟨d, ⟨⟨fits, within⟩, same⟩, spans⟩ := value_sound _ _ c v c' read
    exact ⟨d, fits, within, spans, same⟩
  · rintro ⟨d, fits, within, spans, rfl⟩
    rw [next_of_spans fits spans, read_of_within within]
    rfl

theorem next_of_not_within {d : Derivation} (fits : d.Fits)
    (deep : ¬ Within children (maxDepth + 1) d) (spans : c.Spans d.text c') :
    c.next = .error (.tooDeep maxDepth) := by
  rw [next_of_spans fits spans, read_of_not_within deep]
  rfl

end Cursor

theorem decode_eq_ok_iff {data : Bytes} {v : Value} : decode data = .ok v ↔
    ∃ d : Derivation, d.Fits ∧ Within Derivation.children (maxDepth + 1) d ∧ d.text = data ∧
      d.value = v := by
  constructor
  · intro read
    unfold decode at read
    split at read
    next => cases read
    next v' behind first =>
      split at read
      next empty =>
        cases read
        obtain ⟨d, fits, within, spans, same⟩ := Cursor.next_eq_ok_iff.1 first
        refine ⟨d, fits, within, ?_, same⟩
        have whole : data = d.text ++ behind.rest := spans.rest
        rw [whole, List.isEmpty_iff.1 empty, List.append_nil]
      next => cases read
  · rintro ⟨d, fits, within, rfl, rfl⟩
    have spans : (Cursor.start d.text).Spans d.text ⟨d.text.length, []⟩ :=
      ⟨(List.append_nil _).symm, (Nat.zero_add _).symm⟩
    have first := Cursor.next_eq_ok_iff.2 ⟨d, fits, within, spans, rfl⟩
    simp only [decode, first, List.isEmpty_nil, if_true]

end Swarm.Bencode
