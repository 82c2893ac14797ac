import Mathlib.Algebra.Ring.Nat
import Swarm.Proofs.Bencode.Entries
import Swarm.Proofs.Bencode.Guarded
import Swarm.Proofs.Bencode.RawValue

/-!
No guard of the guarded readers is ever hit. On an input of less than `2 ^ 63` octets they give what
the readers on cursors give, so every sum is a 64-bit word, every slice is in the input, and as many
rounds as the input has octets are enough. With the grammar this says what decoding accepts
(`decode_accepts_grammar`); looking for the octets of a key keeps inside the input as well
(`Guarded.findRaw_eq`).
-/

namespace Swarm.Bencode

namespace Walk

theorem add_eq {a b : Nat} (small : a + b < UInt64.size) : add a b = .ok (a + b) := if_pos small

theorem sub_eq {a b : Nat} (below : b ≤ a) : sub a b = .ok (a - b) := if_pos below

theorem slice_eq {data front rest : Bytes} {position last : Nat} (inside : position ≤ data.length)
    (ahead : data.drop position = front ++ rest) (stop : last = position + front.length) :
    slice data position last = .ok front := by
  have size := congrArg List.length ahead
  rw [List.length_drop, List.length_append] at size
  rw [slice, if_pos ⟨by omega, by omega⟩, stop, List.drop_take, Nat.add_sub_cancel_left, ahead,
    List.take_left]

end Walk

namespace Guarded

open Walk

def place (data : Bytes) (position : Nat) : Cursor := ⟨position, data.drop position⟩

def report {α : Type} (r : Except DecodeError (α × Cursor)) : Walk (α × Nat) :=
  match r with
  | .error e => refuse e
  | .ok (a, c) => .ok (a, c.position)

variable {data : Bytes} {position : Nat}

theorem extent_place (inside : position ≤ data.length) :
    (place data position).extent = data.length := by
  show position + (data.drop position).length = data.length
  rw [List.length_drop]
  omega

theorem eq_place_of_spans {c : Cursor} {text : Bytes} (inside : position ≤ data.length)
    (spans : (place data position).Spans text c) :
    c = place data c.position ∧ c.position ≤ data.length := by
  obtain ⟨p, rest⟩ := c
  have ahead : data.drop position = text ++ rest := spans.rest
  have stop : p = position + text.length := spans.position
  have size := congrArg List.length ahead
  rw [List.length_drop, List.length_append] at size
  refine ⟨?_, show p ≤ data.length by omega⟩
  rw [place, stop, ← List.drop_drop, ahead, List.drop_left]

theorem peek_of_nil (ahead : data.drop position = []) :
    peek data position = refuse (.endOfInput position) := by
  rw [peek, List.getElem?_eq_none (List.drop_eq_nil_iff.1 ahead)]

theorem peek_of_cons {b : UInt8} {after : Bytes} (ahead : data.drop position = b :: after) :
    peek data position = .ok b := by
  have octet : data[position]? = some b := by rw [← List.head?_drop, ahead, List.head?_cons]
  rw [peek, octet]

theorem findIdx?_of_notMem {mark : UInt8} {b : Bytes} (absent : mark ∉ b) :
    b.findIdx? (· == mark) = none := by
  rw [List.findIdx?_eq_none_iff]
  rintro octet member
  exact beq_false_of_ne fun same => absent (same ▸ member)

theorem findIdx?_append_mark {mark : UInt8} {front : Bytes} (absent : mark ∉ front)
    (rest : Bytes) : (front ++ mark :: rest).findIdx? (· == mark) = some front.length := by
  rw [List.findIdx?_append, findIdx?_of_notMem absent, List.findIdx?_cons]
  simp

theorem number_eq (position : Nat) (digits : Bytes) : number position digits =
    (Cursor.integerOf digits).mapError fun fault => .refused (.invalidInteger position fault) := by
  unfold number Cursor.integerOf
  by_cases negative : digits.head? = some 45
  · obtain ⟨b, rfl⟩ := List.head?_eq_some_iff.1 negative
    cases b with
    | nil => rfl
    | cons lead rest =>
      have longer : (45 :: lead :: rest).length ≠ (lead :: rest).length := by simp
      simp only [List.head?_cons, if_true, List.drop_succ_cons, List.drop_zero, List.isEmpty_cons,
        Bool.false_eq_true, if_false, octet, List.getElem?_cons_zero, longer, ne_eq,
        not_false_eq_true, or_true, and_true, Option.some.injEq]
      split
      · rfl
      · show (if lead = 48 then _ else _) = _
        split <;> rfl
  · rw [Decimal.signedValue_of_head_ne negative]
    cases digits with
    | nil => rfl
    | cons lead rest =>
      have other : lead ≠ 45 := fun same => negative (congrArg some same)
      simp only [other, if_false, List.isEmpty_cons, Bool.false_eq_true, octet,
        List.getElem?_cons_zero, ne_eq, not_true_eq_false, or_false, List.head?_cons,
        Option.some.injEq]
      split
      · rfl
      · show (if lead = 48 ∧ _ then _ else _) = _
        split <;> rfl

theorem length_eq (position : Nat) (digits : Bytes) : length position digits =
    match Cursor.lengthOf? digits with
    | none => refuse (.invalidLength position)
    | some n => .ok n := by
  unfold length Cursor.lengthOf?
  split
  · rfl
  next legal =>
    cases digits with
    | nil => exact absurd (.inl rfl) legal
    | cons lead rest =>
      simp only [octet, List.getElem?_cons_zero, List.head?_cons, Option.some.injEq]
      show (if _ ∧ lead = 48 then _ else _) = _
      by_cases zero : lead = 48 ∧ (lead :: rest).length > 1
      · rw [if_pos zero.symm, if_pos zero]
      · rw [if_neg fun other => zero other.symm, if_neg zero]
        split <;> rfl

/-! ### Readers -/

variable {b : UInt8} {after : Bytes}

theorem integer_eq (small : data.length < 2 ^ 63) (ahead : data.drop position = b :: after) :
    integer data position = report ((place data position).integer after) := by
  have size := congrArg List.length ahead
  rw [List.length_drop, List.length_cons] at size
  have inside : position + 1 ≤ data.length := by omega
  have tail : data.drop (position + 1) = after := by rw [← List.drop_drop, ahead]; rfl
  have word : (2 : Nat) ^ 63 < UInt64.size := by decide
  have whole : slice data (position + 1) data.length = .ok after := by
    refine slice_eq inside ((tail.trans (List.append_nil _).symm)) ?_
    omega
  unfold integer Cursor.integer
  rw [add_eq (by omega)]
  dsimp only [bind, Except.bind]
  rw [whole]
  dsimp only
  rcases Cursor.takeWhile_cases 101 after with
    ⟨nothing, absent⟩ | ⟨front, rest, absent, same, taken, left⟩
  · rw [nothing, findIdx?_of_notMem absent, extent_place (by omega)]
    rfl
  · have length := congrArg List.length same
    rw [List.length_append, List.length_cons] at length
    rw [taken, left, same, findIdx?_append_mark absent]
    dsimp only
    rw [add_eq (by omega)]
    dsimp only
    rw [slice_eq inside (tail.trans same) rfl]
    dsimp only
    rw [number_eq]
    cases Cursor.integerOf front with
    | error fault => rfl
    | ok n =>
      dsimp only [Except.mapError]
      rw [add_eq (by omega)]
      have stop : position + 1 + front.length + 1 = position + front.length + 2 := by omega
      exact congrArg (fun behind => Except.ok (Value.integer n, behind)) stop

theorem string_eq (small : data.length < 2 ^ 63) (inside : position ≤ data.length) :
    string data position = report (place data position).string := by
  have word : (2 : Nat) ^ 63 < UInt64.size := by decide
  have size : (data.drop position).length = data.length - position := List.length_drop
  have whole : slice data position data.length = .ok (data.drop position) := by
    refine slice_eq inside (List.append_nil _).symm ?_
    omega
  unfold string Cursor.string
  rw [whole, extent_place inside]
  dsimp only [bind, Except.bind, place]
  rcases Cursor.takeWhile_cases 58 (data.drop position) with
    ⟨nothing, absent⟩ | ⟨front, rest, absent, same, taken, left⟩
  · rw [nothing, findIdx?_of_notMem absent]
    rfl
  · have length := congrArg List.length same
    rw [List.length_append, List.length_cons] at length
    have behindColon : data.drop (position + front.length + 1) = rest := by
      rw [← List.drop_drop, ← List.drop_drop, same, List.drop_left]
      rfl
    rw [taken, left, same, findIdx?_append_mark absent]
    dsimp only
    rw [add_eq (by omega)]
    dsimp only
    rw [slice_eq inside same rfl]
    dsimp only
    rw [length_eq]
    cases Cursor.lengthOf? front with
    | none => rfl
    | some n =>
      dsimp only
      rw [add_eq (by omega)]
      dsimp only
      rw [sub_eq (by omega)]
      dsimp only
      cases split : Bytes.split? n rest with
      | none =>
        have short := Bytes.split?_eq_none_iff.1 split
        rw [if_pos (by omega)]
        rfl
      | some halves =>
        obtain ⟨octets, behind⟩ := halves
        obtain ⟨full, rfl⟩ := Bytes.split?_eq_some_iff.1 split
        rw [List.length_append] at length
        rw [if_neg (by omega), add_eq (by omega)]
        dsimp only
        rw [slice_eq (by omega) behindColon (congrArg _ full.symm)]
        rfl

theorem key_eq (small : data.length < 2 ^ 63) (inside : position ≤ data.length) :
    key data position = report (place data position).key := by
  unfold key Cursor.key
  dsimp only [place]
  cases ahead : data.drop position with
  | nil =>
    rw [peek_of_nil ahead]
    rfl
  | cons b after =>
    rw [peek_of_cons ahead, string_eq small inside]
    dsimp only [bind, Except.bind]
    rw [place, ahead]
    split <;> rfl

/-! ### Loops -/

variable {item : Nat → Walk (Value × Nat)} {item' : Cursor → Except DecodeError (Value × Cursor)}
  {good : Derivation → Prop}

def Agree (data : Bytes) (item : Nat → Walk (Value × Nat))
    (item' : Cursor → Except DecodeError (Value × Cursor)) : Prop :=
  ∀ position, position ≤ data.length → item position = report (item' (place data position))

def Takes {α σ : Type} (data : Bytes) (round : σ → Nat → Walk (σ × Nat))
    (element : Cursor → Except DecodeError (α × Cursor)) (fold : σ → α → σ) : Prop :=
  ∀ state position, position ≤ data.length → round state position =
    report ((element (place data position)).map fun r => (fold state r.1, r.2))

theorem loop_eq {α β σ : Type} {element : Cursor → Except DecodeError (α × Cursor)}
    {text : β → Bytes} {goes : α → β → Prop} {round : σ → Nat → Walk (σ × Nat)} {fold : σ → α → σ}
    (small : data.length < 2 ^ 63) (reads : Cursor.Reads element text goes)
    (headed : ∀ x, Headed (text x)) (takes : Takes data round element fold) (s : σ)
    {rounds budget : Nat} (done : List α) (inside : position ≤ data.length)
    (enough : data.length - position < rounds) (enough' : data.length - position < budget) :
    loop data round rounds (done.reverse.foldl fold s) position =
      report ((Cursor.scan element budget done (place data position)).map fun r =>
        (r.1.foldl fold s, r.2)) := by
  induction rounds generalizing budget done position with
  | zero => cases enough
  | succ rounds ih =>
    obtain ⟨budget, rfl⟩ := Nat.exists_eq_succ_of_ne_zero (Nat.ne_zero_of_lt enough')
    have size : (data.drop position).length = data.length - position := List.length_drop
    have word : (2 : Nat) ^ 63 < UInt64.size := by decide
    rw [loop]
    rcases Cursor.rest_cases (data.drop position) with ahead | ⟨after, ahead⟩ | headedRest
    · rw [peek_of_nil ahead, Cursor.scan_nil (c := place data position) ahead]
      rfl
    · rw [ahead, List.length_cons] at size
      rw [peek_of_cons ahead, Cursor.scan_end (c := place data position) ahead]
      dsimp only [bind, Except.bind]
      rw [if_pos rfl, add_eq (by omega)]
      rfl
    · obtain ⟨b, after, ahead, other⟩ := headedRest
      rw [peek_of_cons ahead, Cursor.scan_step (c := place data position) ⟨b, after, ahead, other⟩]
      dsimp only [bind, Except.bind]
      -- the round takes an octet at least, so the rounds left go on exceeding the octets left
      rw [if_neg other, takes _ position inside]
      cases read : element (place data position) with
      | error e => rfl
      | ok r =>
        obtain ⟨a, c⟩ := r
        obtain ⟨x, -, spans⟩ := reads _ _ _ read
        have further : position < c.position := spans.position_lt (headed x)
        obtain ⟨there, reached⟩ := eq_place_of_spans inside spans
        have later : loop data round rounds ((a :: done).reverse.foldl fold s) c.position =
            report ((Cursor.scan element budget (a :: done) (place data c.position)).map fun r =>
              (r.1.foldl fold s, r.2)) :=
          ih _ reached (by omega) (by omega)
        rw [List.reverse_cons, List.foldl_append, ← there] at later
        exact later

theorem foldl_push {α : Type} (l : List α) : l.foldl (fun done a => done ++ [a]) [] = l := by
  induction l using List.reverseRecOn with
  | nil => rfl
  | append_singleton l a ih => rw [List.foldl_append, ih, List.foldl_cons, List.foldl_nil]

theorem items_eq (small : data.length < 2 ^ 63) (sound : Cursor.Sound item' good)
    (agree : Agree data item item') {rounds budget : Nat} (inside : position ≤ data.length)
    (enough : data.length - position < rounds) (enough' : data.length - position < budget) :
    loop data (pushItem item) rounds [] position =
      report (Cursor.items item' budget [] (place data position)) := by
  have takes : Takes data (pushItem item) item' fun done v => done ++ [v] := by
    intro done position inside
    rw [pushItem, agree position inside]
    cases item' (place data position) <;> rfl
  have whole := loop_eq small sound Derivation.headed_text takes [] [] inside enough enough'
  rw [Cursor.items_eq_scan]
  refine Eq.trans whole ?_
  cases Cursor.scan item' budget [] (place data position) with
  | error e => rfl
  | ok r => exact congrArg (fun vs => Except.ok (vs, r.2.position)) (foldl_push r.1)

theorem field_eq (small : data.length < 2 ^ 63) (agree : Agree data item item')
    (inside : position ≤ data.length) :
    field data item position = match Cursor.field item' (place data position) with
      | .error e => refuse e
      | .ok (f, c) => .ok (f.key, f.value, f.before.position, c.position) := by
  rw [field, key_eq small inside, Cursor.field]
  cases named : (place data position).key with
  | error e => rfl
  | ok k =>
    obtain ⟨k, before⟩ := k
    obtain ⟨s, spans, -⟩ := Cursor.key_eq_ok_iff.1 named
    obtain ⟨there, reached⟩ := eq_place_of_spans inside spans
    dsimp only [report, bind, Except.bind]
    rw [agree before.position reached, ← there]
    cases item' before <;> rfl

theorem slice_field (sound : Cursor.Sound item' good) (inside : position ≤ data.length)
    {f : Cursor.Field} {c : Cursor}
    (read : Cursor.field item' (place data position) = .ok (f, c)) :
    slice data f.before.position c.position = .ok f.raw := by
  obtain ⟨named, first, rfl⟩ := Cursor.field_eq_ok read
  obtain ⟨s, key, -⟩ := Cursor.key_eq_ok_iff.1 named
  obtain ⟨d, -, spans⟩ := sound _ _ _ first
  obtain ⟨there, reached⟩ := eq_place_of_spans inside key
  rw [spans.raw]
  rw [there] at spans
  exact slice_eq reached spans.rest spans.position

theorem entries_eq (small : data.length < 2 ^ 63) (sound : Cursor.Sound item' good)
    (agree : Agree data item item') {rounds budget : Nat} (inside : position ≤ data.length)
    (enough : data.length - position < rounds) (enough' : data.length - position < budget) :
    loop data (putEntry data item) rounds [] position =
      report ((Cursor.fields item' budget [] (place data position)).map fun r =>
        (Entries.ofList (r.1.map Cursor.Field.entry), r.2)) := by
  have takes : Takes data (putEntry data item) (Cursor.field item') fun map f =>
      map.insert f.key f.value := by
    intro map position inside
    rw [putEntry, field_eq small agree inside]
    cases Cursor.field item' (place data position) <;> rfl
  have whole := loop_eq small sound.field Derivation.headed_fieldText takes [] [] inside enough
    enough'
  rw [Cursor.fields_eq_scan]
  refine Eq.trans whole ?_
  cases Cursor.scan (Cursor.field item') budget [] (place data position) with
  | error e => rfl
  | ok r =>
    have put : r.1.foldl (fun (map : Entries) f => map.insert f.key f.value) [] =
        Entries.ofList (r.1.map Cursor.Field.entry) := by
      rw [Entries.ofList, List.foldl_map]
      rfl
    exact congrArg (fun map => Except.ok (map, r.2.position)) put

theorem foldl_note (wanted : Bytes) (fields : List Cursor.Field) :
    fields.foldl (fun found f => if f.key = wanted then some f.raw else found) none =
      (fields.reverse.find? fun f => f.key == wanted).map Cursor.Field.raw := by
  induction fields using List.reverseRecOn with
  | nil => rfl
  | append_singleton fields f ih =>
    rw [List.foldl_append, ih, List.reverse_append, List.reverse_singleton, List.singleton_append,
      List.find?_cons, List.foldl_cons, List.foldl_nil]
    by_cases same : f.key = wanted
    · rw [if_pos same, beq_iff_eq.2 same]
      rfl
    · rw [if_neg same, beq_false_of_ne same]

theorem notes_eq (small : data.length < 2 ^ 63) (sound : Cursor.Sound item' good)
    (agree : Agree data item item') (wanted : Bytes) {rounds budget : Nat}
    (inside : position ≤ data.length) (enough : data.length - position < rounds)
    (enough' : data.length - position < budget) :
    loop data (noteRaw data item wanted) rounds none position =
      report ((Cursor.fields item' budget [] (place data position)).map fun r =>
        ((r.1.reverse.find? fun f => f.key == wanted).map Cursor.Field.raw, r.2)) := by
  have takes : Takes data (noteRaw data item wanted) (Cursor.field item') fun found f =>
      if f.key = wanted then some f.raw else found := by
    intro found position inside
    rw [noteRaw, field_eq small agree inside]
    cases read : Cursor.field item' (place data position) with
    | error e => rfl
    | ok r =>
      dsimp only [bind, Except.bind]
      rw [slice_field sound inside read]
      by_cases same : r.1.key = wanted
      · rw [if_pos same]
        dsimp only [Except.map]
        rw [if_pos same]
        rfl
      · rw [if_neg same]
        dsimp only [Except.map]
        rw [if_neg same]
        rfl
  have whole := loop_eq small sound.field Derivation.headed_fieldText takes none [] inside enough
    enough'
  rw [Cursor.fields_eq_scan]
  refine Eq.trans whole ?_
  cases Cursor.scan (Cursor.field item') budget [] (place data position) with
  | error e => rfl
  | ok r => exact congrArg (fun found => Except.ok (found, r.2.position)) (foldl_note wanted r.1)

/-! ### Values -/

theorem value_eq (small : data.length < 2 ^ 63) {limit calls depth levels budget : Nat}
    (rounds : data.length < limit) (budgeted : data.length < budget)
    (deep : depth + levels = maxDepth + 1) (called : levels < calls) :
    Agree data (value data limit calls depth) (Cursor.value budget levels) := by
  induction levels generalizing calls depth with
  | zero =>
    intro position inside
    obtain ⟨calls, rfl⟩ := Nat.exists_eq_succ_of_ne_zero (Nat.ne_zero_of_lt called)
    rw [value, if_pos (by omega)]
    rfl
  | succ levels ih =>
    intro position inside
    obtain ⟨calls, rfl⟩ := Nat.exists_eq_succ_of_ne_zero (Nat.ne_zero_of_lt called)
    have word : (2 : Nat) ^ 63 < UInt64.size := by decide
    have limited : maxDepth + 1 < UInt64.size := by decide
    have agree := ih (show depth + 1 + levels = maxDepth + 1 by omega)
      (Nat.lt_of_succ_lt_succ called)
    have sound := Cursor.value_sound budget levels
    rw [value, if_neg (by omega), Cursor.value]
    cases ahead : data.drop position with
    | nil =>
      rw [peek_of_nil ahead, place, ahead]
      rfl
    | cons b after =>
      have size := congrArg List.length ahead
      rw [List.length_drop, List.length_cons] at size
      have tail : (⟨position + 1, after⟩ : Cursor) = place data (position + 1) := by
        rw [place, ← List.drop_drop, ahead]
        rfl
      have filled : (place data position).rest = b :: after := ahead
      have inner : position + 1 ≤ data.length := by omega
      have enough : data.length - (position + 1) < limit := by omega
      have enough' : data.length - (position + 1) < budget := by omega
      rw [peek_of_cons ahead, filled]
      dsimp only [bind, Except.bind]
      by_cases isInteger : b = 105
      · rw [if_pos isInteger, if_pos isInteger, integer_eq small ahead]
      rw [if_neg isInteger, if_neg isInteger]
      by_cases isList : b = 108
      · have loop : loop data (pushItem (value data limit calls (depth + 1))) limit []
              (position + 1) =
            report (Cursor.items (Cursor.value budget levels) budget []
              (place data (position + 1))) :=
          items_eq small sound agree inner enough enough'
        rw [if_pos isList, if_pos isList, add_eq (by omega)]
        dsimp only
        rw [add_eq (by omega)]
        dsimp only
        rw [loop, show (place data position).position + 1 = position + 1 from rfl, tail]
        cases Cursor.items (Cursor.value budget levels) budget [] (place data (position + 1)) <;>
          rfl
      rw [if_neg isList, if_neg isList]
      by_cases isDict : b = 100
      · have loop : loop data (putEntry data (value data limit calls (depth + 1))) limit []
              (position + 1) =
            report ((Cursor.fields (Cursor.value budget levels) budget []
              (place data (position + 1))).map fun r =>
                (Entries.ofList (r.1.map Cursor.Field.entry), r.2)) :=
          entries_eq small sound agree inner enough enough'
        rw [if_pos isDict, if_pos isDict, add_eq (by omega)]
        dsimp only
        rw [add_eq (by omega)]
        dsimp only
        rw [loop, show (place data position).position + 1 = position + 1 from rfl, tail]
        cases Cursor.fields (Cursor.value budget levels) budget [] (place data (position + 1)) <;>
          rfl
      rw [if_neg isDict, if_neg isDict]
      by_cases isString : Decimal.isDigit b = true
      · rw [if_pos isString, if_pos isString, string_eq small inside]
        cases (place data position).string <;> rfl
      · rw [if_neg isString, if_neg isString]
        rfl

theorem place_zero (data : Bytes) : place data 0 = Cursor.start data := rfl

theorem value_zero_eq (small : data.length < 2 ^ 63) {limit : Nat} (rounds : data.length < limit)
    (calls : maxDepth + 1 < limit) :
    value data limit limit 0 0 = report (Cursor.start data).next :=
  value_eq small rounds (Nat.lt_succ_self _) (Nat.zero_add _) calls 0 (Nat.zero_le _)

theorem decode_eq (small : data.length < 2 ^ 63) {limit : Nat} (rounds : data.length < limit)
    (calls : maxDepth + 1 < limit) :
    decode data limit = (Bencode.decode data).mapError .refused := by
  rw [decode, value_zero_eq small rounds calls, Bencode.decode]
  cases read : (Cursor.start data).next with
  | error e => rfl
  | ok r =>
    obtain ⟨v, c⟩ := r
    obtain ⟨d, -, -, spans, -⟩ := Cursor.next_eq_ok_iff.1 read
    rw [← place_zero] at spans
    obtain ⟨there, reached⟩ := eq_place_of_spans (Nat.zero_le _) spans
    dsimp only [report, bind, Except.bind]
    rw [sub_eq reached]
    dsimp only
    have left : c.rest.length = data.length - c.position := by
      rw [there, place, List.length_drop]
    by_cases empty : c.rest = []
    · rw [empty, List.length_nil] at left
      rw [if_neg (by omega), if_pos (List.isEmpty_iff.2 empty)]
      rfl
    · have some := List.length_pos_iff.2 empty
      rw [if_pos (by omega), if_neg (mt List.isEmpty_iff.1 empty)]
      rfl

/-- The guarded search for the octets of a key finds what the search on cursors finds. -/
theorem findRaw_eq (small : data.length < 2 ^ 63) {limit : Nat} (rounds : data.length < limit)
    (calls : maxDepth + 1 < limit) (wanted : Bytes) :
    findRaw data limit wanted = (Bencode.findRaw data wanted).mapError .refused := by
  by_cases dict : data.head? = some 100
  · obtain ⟨after, rfl⟩ := List.head?_eq_some_iff.1 dict
    have items : Agree (100 :: after) (value (100 :: after) limit limit 1)
        (Cursor.value (after.length + 2) maxDepth) :=
      value_eq small rounds (Nat.lt_succ_self _) (Nat.add_comm 1 maxDepth)
        (Nat.lt_of_succ_lt calls)
    have inside : 1 ≤ (100 :: after).length := Nat.le_add_left 1 after.length
    have run : loop (100 :: after) (noteRaw (100 :: after) (value (100 :: after) limit limit 1)
          wanted) limit none 1 =
        report ((topFields after).map fun r =>
          ((r.1.reverse.find? fun f => f.key == wanted).map Cursor.Field.raw, r.2)) :=
      notes_eq small (Cursor.value_sound _ _) items wanted inside (by omega)
        (show after.length < after.length + 2 by omega)
    rw [findRaw, peek_of_cons rfl, findRaw_of_dict]
    dsimp only [bind, Except.bind]
    rw [if_neg (by decide), add_eq (by decide)]
    dsimp only
    rw [run]
    cases topFields after <;> rfl
  · rw [findRaw, findRaw_of_not_dict dict]
    cases data with
    | nil => rfl
    | cons b after =>
      have other : b ≠ 100 := fun same => dict (congrArg some same)
      rw [peek_of_cons rfl]
      dsimp only [bind, Except.bind]
      rw [if_pos other, value_zero_eq small rounds calls]
      cases (Cursor.start (b :: after)).next <;> rfl

end Guarded

/-- What is decoded are the texts of the grammar that nest no value more than 64 levels down, each
has one derivation, and the decoder that guards every sum, difference, index and slice says the same
about every input, so no guard is hit. An array of octets has less than `2 ^ 63` of them. -/
theorem decode_accepts_grammar {data : Bytes} (small : data.length < 2 ^ 63) :
    (∀ v, decode data = .ok v ↔ ∃ d : Derivation, d.text = data ∧
      (∀ depth part, Part Derivation.children d depth part → depth ≤ maxDepth) ∧ d.value = v) ∧
    (∀ d e : Derivation, d.text = data → e.text = data → d = e) ∧
    (∀ limit, data.length < limit → maxDepth + 1 < limit →
      Guarded.decode data limit = (decode data).mapError .refused) := by
  refine ⟨fun v => ?_, fun d e text text' => Derivation.eq_of_text_eq (text.trans text'.symm),
    fun limit => Guarded.decode_eq small⟩
  rw [decode_eq_ok_iff]
  constructor
  · rintro ⟨d, -, within, text, same⟩
    exact ⟨d, text, within_succ_iff_le.1 within, same⟩
  · rintro ⟨d, rfl, within, same⟩
    have word : (2 : Nat) ^ 63 < UInt64.size := by decide
    exact ⟨d, Derivation.fits_of_length_lt (Nat.lt_trans small word), within_succ_iff_le.2 within,
      rfl, same⟩

theorem decode_accepts_grammar_sample :
    decode [100, 49, 58, 97, 105, 45, 55, 101, 49, 58, 97, 108, 101, 101] =
      .ok (.dict [([97], .list [])]) ∧
    Guarded.decode [100, 49, 58, 97, 105, 45, 55, 101, 49, 58, 97, 108, 101, 101] 70 =
      .ok (.dict [([97], .list [])]) := by
  have small : ([100, 49, 58, 97, 105, 45, 55, 101, 49, 58, 97, 108, 101, 101] : Bytes).length <
      2 ^ 63 := by decide
  obtain ⟨accepts, -, guarded⟩ := decode_accepts_grammar small
  have one : Decimal.IsNumeral [49] := .positive ⟨by decide, List.forall_mem_nil _⟩
  have seven : Decimal.IsInteger [45, 55] := .negative ⟨by decide, List.forall_mem_nil _⟩
  let d : Derivation := .dict [(⟨[49], [97], one, by decide⟩, .integer ⟨[45, 55], seven⟩),
    (⟨[49], [97], one, by decide⟩, .list [])]
  have within : Within Derivation.children (maxDepth + 1) d := by
    refine within_succ_iff.2 (List.forall_mem_cons.2 ⟨?_, List.forall_mem_singleton.2 ?_⟩) <;>
      exact within_of_children_eq_nil rfl
  have read := (accepts (.dict [([97], .list [])])).2 ⟨d, rfl, within_succ_iff_le.1 within, rfl⟩
  refine ⟨read, ?_⟩
  rw [guarded 70 (by decide) (by decide), read]
  rfl

end Swarm.Bencode
