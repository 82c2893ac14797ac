import Swarm.Proofs.Bencode.Spans

/-!
Reading one element after the other up to an end mark. The loop over the items of a list and the one
over the fields of a dictionary are both this loop (`items_eq_scan`, `fields_eq_scan`). What it has
read are the texts of elements (`Reads.scan`), and in front of the texts of elements it gives what
each of them gives (`scan_of_spans`).

The budget of the loop never decides: it exceeds the number of octets ahead, and each round uses up
one octet at least.
-/

namespace Swarm.Bencode

namespace Cursor

variable {α β γ : Type} {element : Cursor → Except DecodeError (α × Cursor)} {c c' : Cursor}
  {budget limit : Nat}

def scan (element : Cursor → Except DecodeError (α × Cursor)) :
    Nat → List α → Cursor → Except DecodeError (List α × Cursor)
  | 0, _, c => .error (.endOfInput c.position)
  | budget + 1, done, c =>
    match c.rest with
    | [] => .error (.endOfInput c.position)
    | b :: after =>
      if b = 101 then .ok (done.reverse, ⟨c.position + 1, after⟩)
      else match element c with
        | .error e => .error e
        | .ok (a, next) => scan element budget (a :: done) next

def field (item : Cursor → Except DecodeError (Value × Cursor)) (c : Cursor) :
    Except DecodeError (Field × Cursor) :=
  match c.key with
  | .error e => .error e
  | .ok (k, before) =>
    match item before with
    | .error e => .error e
    | .ok (v, behind) => .ok (⟨k, v, before, behind⟩, behind)

theorem items_eq_scan (item : Cursor → Except DecodeError (Value × Cursor)) (done : List Value) :
    items item budget done c = scan item budget done c := by
  induction budget generalizing done c with
  | zero => rfl
  | succ budget ih =>
    rw [items, scan]
    cases c.rest with
    | nil => rfl
    | cons b after => cases item c <;> simp only [ih]

theorem fields_eq_scan (item : Cursor → Except DecodeError (Value × Cursor)) (done : List Field) :
    fields item budget done c = scan (field item) budget done c := by
  induction budget generalizing done c with
  | zero => rfl
  | succ budget ih =>
    rw [fields, scan, field]
    cases c.rest with
    | nil => rfl
    | cons b after =>
      cases c.key with
      | error e => rfl
      | ok k =>
        dsimp only
        cases item k.2 <;> simp only [ih]

theorem rest_cases (b : Bytes) : b = [] ∨ (∃ after, b = 101 :: after) ∨ Headed b := by
  cases b with
  | nil => exact .inl rfl
  | cons octet after =>
    by_cases last : octet = 101
    · exact .inr (.inl ⟨after, last ▸ rfl⟩)
    · exact .inr (.inr ⟨octet, after, rfl, last⟩)

theorem scan_nil {done : List α} (ahead : c.rest = []) :
    scan element budget done c = .error (.endOfInput c.position) := by
  cases budget with
  | zero => rfl
  | succ budget => rw [scan, ahead]

theorem scan_end {done : List α} {after : Bytes} (ahead : c.rest = 101 :: after) :
    scan element (budget + 1) done c = .ok (done.reverse, ⟨c.position + 1, after⟩) := by
  rw [scan, ahead]
  exact if_pos rfl

theorem scan_step {done : List α} (headed : Headed c.rest) :
    scan element (budget + 1) done c =
      (element c).bind fun r => scan element budget (r.1 :: done) r.2 := by
  obtain ⟨b, after, ahead, other⟩ := headed
  rw [scan, ahead]
  dsimp only
  rw [if_neg other]
  cases element c <;> rfl

theorem scan_map (change : α → β) (done : List α) :
    ((scan element budget done c).map fun r => (r.1.map change, r.2)) =
      scan (fun c => (element c).map fun r => (change r.1, r.2)) budget (done.map change) c := by
  induction budget generalizing done c with
  | zero => rfl
  | succ budget ih =>
    rcases rest_cases c.rest with ahead | ⟨after, ahead⟩ | headed
    · rw [scan_nil ahead, scan_nil ahead]
      rfl
    · rw [scan_end ahead, scan_end ahead, ← List.map_reverse]
      rfl
    · rw [scan_step headed, scan_step headed]
      cases element c with
      | error e => rfl
      | ok r => exact ih (r.1 :: done)

/-! ### What has been read -/

def Reads (element : Cursor → Except DecodeError (α × Cursor)) (text : β → Bytes)
    (goes : α → β → Prop) : Prop :=
  ∀ c a c', element c = .ok (a, c') → ∃ x, goes a x ∧ c.Spans (text x) c'

theorem Reads.scan {text : β → Bytes} {goes : α → β → Prop} (reads : Reads element text goes)
    {done read : List α} (run : scan element budget done c = .ok (read, c')) :
    ∃ pairs : List (α × β), read = done.reverse ++ pairs.map Prod.fst ∧
      (∀ p ∈ pairs, goes p.1 p.2) ∧
      c.Spans ((pairs.map Prod.snd).flatMap text ++ [101]) c' := by
  induction budget generalizing done c with
  | zero => cases run
  | succ budget ih =>
    rcases rest_cases c.rest with ahead | ⟨after, ahead⟩ | headed
    · rw [scan_nil ahead] at run
      cases run
    · rw [scan_end ahead] at run
      cases run
      exact ⟨[], (List.append_nil _).symm, List.forall_mem_nil _, spans_next ahead⟩
    · rw [scan_step headed] at run
      cases first : element c with
      | error e =>
        rw [first] at run
        cases run
      | ok r =>
        rw [first] at run
        obtain ⟨x, goes, spans⟩ := reads c r.1 r.2 first
        obtain ⟨pairs, rfl, all, more⟩ := ih run
        refine ⟨(r.1, x) :: pairs, ?_, List.forall_mem_cons.2 ⟨goes, all⟩, ?_⟩
        · rw [List.reverse_cons, List.append_assoc, List.singleton_append, List.map_cons]
        · rw [List.map_cons, List.flatMap_cons, List.append_assoc]
          exact spans.append more

/-! ### What will be read -/

/-- In front of `text` a reader gives `result`, if fewer than `limit` octets are ahead. -/
def Answers (element : Cursor → Except DecodeError (α × Cursor)) (limit : Nat) (text : Bytes)
    (result : Except DecodeError α) : Prop :=
  ∀ c c', c.Spans text c' → c.rest.length < limit → element c = result.map fun a => (a, c')

theorem scan_of_spans {text : β → Bytes} {result : β → Except DecodeError α} {xs : List β}
    (headed : ∀ x, Headed (text x))
    (answers : ∀ x ∈ xs, Answers element limit (text x) (result x)) {done : List α}
    (spans : c.Spans (xs.flatMap text ++ [101]) c') (ahead : c.rest.length < limit)
    (rounds : c.rest.length < budget) :
    scan element budget done c = (xs.mapM result).map fun read => (done.reverse ++ read, c') := by
  induction xs generalizing budget done c with
  | nil =>
    obtain ⟨budget, rfl⟩ := Nat.exists_eq_succ_of_ne_zero (Nat.ne_zero_of_lt rounds)
    have mark : c.rest = 101 :: c'.rest := spans.rest
    rw [scan_end mark, (spans_next mark).eq spans, List.mapM_nil]
    exact congrArg (fun read => Except.ok (read, c')) (List.append_nil _).symm
  | cons x xs ih =>
    obtain ⟨budget, rfl⟩ := Nat.exists_eq_succ_of_ne_zero (Nat.ne_zero_of_lt rounds)
    rw [List.flatMap_cons, List.append_assoc] at spans
    obtain ⟨mid, first, more⟩ := spans.split
    have shorter := first.length_lt (headed x)
    rw [scan_step (first.headed (headed x)), answers x List.mem_cons_self c mid first ahead,
      List.mapM_cons]
    cases result x with
    | error e => rfl
    | ok a =>
      have later : scan element budget (a :: done) mid =
          (xs.mapM result).map fun read => ((a :: done).reverse ++ read, c') :=
        ih (fun x member => answers x (List.mem_cons_of_mem _ member)) more (by omega) (by omega)
      refine Eq.trans later ?_
      rw [List.reverse_cons]
      cases xs.mapM result with
      | error e => rfl
      | ok read => exact congrArg (fun l => Except.ok (l, c')) (List.append_cons _ a read).symm

end Cursor

end Swarm.Bencode
