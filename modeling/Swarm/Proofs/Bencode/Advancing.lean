import Swarm.Proofs.Bencode.Truncation

/-!
Reading one value after the other. From every place that this comes to, the next value is taken off
as if it stood alone: what follows it makes no difference, and of what is taken no part is a value
(`next_takes_one_value`). Each value takes an octet at least, so the reading ends, at a fault or at
the end of the input; `Cursor.Yields` says what it gives without any bound on the number of values.
-/

namespace Swarm.Bencode

def segment (data : Bytes) (first last : Nat) : Bytes := (data.take last).drop first

namespace Cursor

open Swarm.Bencode.Derivation

inductive Reached (data : Bytes) : Cursor → Prop where
  | start : Reached data (start data)
  | next {c c' : Cursor} {v : Value} (before : Reached data c) (read : c.next = .ok (v, c')) :
      Reached data c'

/-- What reading one value after the other gives until one cannot be read or nothing is left. Each
answer comes with the place it leads to, which is where it was tried if it is a fault. -/
inductive Yields : Cursor → List (Except DecodeError Value × Cursor) → Prop where
  | refused {c : Cursor} {e : DecodeError} (failed : c.next = .error e) : Yields c [(.error e, c)]
  | last {c c' : Cursor} {v : Value} (read : c.next = .ok (v, c')) (nothing : c'.rest = []) :
      Yields c [(.ok v, c')]
  | more {c c' : Cursor} {v : Value} {answers : List (Except DecodeError Value × Cursor)}
      (read : c.next = .ok (v, c')) (left : c'.rest ≠ []) (later : Yields c' answers) :
      Yields c ((.ok v, c') :: answers)

variable {data : Bytes} {c c' : Cursor} {v : Value} {budget : Nat}
  {answers answers' : List (Except DecodeError Value × Cursor)}

theorem exists_spans_of_next (read : c.next = .ok (v, c')) :
    ∃ d : Derivation, Good (maxDepth + 1) d ∧ d.value = v ∧ c.Spans d.text c' := by
  obtain ⟨d, fits, within, spans, same⟩ := next_eq_ok_iff.1 read
  exact ⟨d, ⟨fits, within⟩, same, spans⟩

theorem Reached.spans (reached : Reached data c) : ∃ front, (Cursor.start data).Spans front c := by
  induction reached with
  | start => exact ⟨[], ⟨rfl, rfl⟩⟩
  | next before read ih =>
    obtain ⟨front, spans⟩ := ih
    obtain ⟨d, -, -, more⟩ := exists_spans_of_next read
    exact ⟨front ++ d.text, spans.append more⟩

theorem Reached.rest_eq (reached : Reached data c) : c.rest = data.drop c.position := by
  obtain ⟨front, spans⟩ := reached.spans
  have whole : data = front ++ c.rest := spans.rest
  have place : c.position = front.length := spans.position.trans (Nat.zero_add _)
  rw [place, whole, List.drop_left]

theorem Reached.position_le (reached : Reached data c) : c.position ≤ data.length := by
  obtain ⟨front, spans⟩ := reached.spans
  have whole : data = front ++ c.rest := spans.rest
  have place : c.position = front.length := spans.position.trans (Nat.zero_add _)
  rw [place, whole, List.length_append]
  exact Nat.le_add_right _ _

theorem Reached.segment_eq (reached : Reached data c) {text : Bytes} (spans : c.Spans text c') :
    segment data c.position c'.position = text := by
  have tail := reached.rest_eq
  rw [spans.rest] at tail
  rw [segment, spans.position, List.drop_take, Nat.add_sub_cancel_left, ← tail, List.take_left]

/-! ### One value -/

theorem next_append {d : Derivation} (good : Good (maxDepth + 1) d) (s : Bytes) :
    (start (d.text ++ s)).next = .ok (d.value, ⟨d.text.length, s⟩) :=
  next_eq_ok_iff.2 ⟨d, good.1, good.2, ⟨rfl, (Nat.zero_add _).symm⟩, rfl⟩

/-! ### One value after the other -/

theorem yields_nextAll (enough : c.rest.length < budget) : Yields c (nextAll budget c) := by
  induction budget generalizing c with
  | zero => cases enough
  | succ budget ih =>
    rw [nextAll]
    cases read : c.next with
    | error e => exact .refused read
    | ok r =>
      obtain ⟨v, behind⟩ := r
      dsimp only
      by_cases nothing : behind.rest = []
      · rw [if_pos (List.isEmpty_iff.2 nothing)]
        exact .last read nothing
      · obtain ⟨d, -, -, spans⟩ := exists_spans_of_next read
        have shorter := spans.length_lt d.headed_text
        rw [if_neg (mt List.isEmpty_iff.1 nothing)]
        exact .more read nothing (ih (by omega))

theorem Yields.unique (first : Yields c answers) (second : Yields c answers') :
    answers = answers' := by
  induction first generalizing answers' with
  | refused failed =>
    cases second with
    | refused failed' => cases failed.symm.trans failed'; rfl
    | last read => cases failed.symm.trans read
    | more read => cases failed.symm.trans read
  | last read nothing =>
    cases second with
    | refused failed => cases read.symm.trans failed
    | last read' => cases read.symm.trans read'; rfl
    | more read' left => cases read.symm.trans read'; exact absurd nothing left
  | more read left later ih =>
    cases second with
    | refused failed => cases read.symm.trans failed
    | last read' nothing => cases read.symm.trans read'; exact absurd nothing left
    | more read' left' later' =>
      cases read.symm.trans read'
      rw [ih later']

theorem nextAll_of_error {e : DecodeError} (failed : c.next = .error e) :
    nextAll (budget + 1) c = [(.error e, c)] := by
  rw [nextAll, failed]

end Cursor

/-- Reading goes on by one whole value at a time. From a place that it comes to, the octets that it
takes are decoded on their own to the same value, they are read alike whatever follows them, and if
they are cut off anywhere, the fault is that the input ended there; where nothing can be read, the
place stays the same. So one value after the other is read, until a fault or the end is met, which
happens on every input. -/
theorem next_takes_one_value (data : Bytes) :
    (∀ c, Cursor.Reached data c →
      c.rest = data.drop c.position ∧ c.position ≤ data.length ∧
      (∀ v c', c.next = .ok (v, c') →
        c.position < c'.position ∧ c'.position ≤ data.length ∧
        decode (segment data c.position c'.position) = .ok v ∧
        (∀ s, (Cursor.start (segment data c.position c'.position ++ s)).next =
          .ok (v, ⟨c'.position - c.position, s⟩)) ∧
        ∀ n, n < c'.position - c.position →
          decode ((segment data c.position c'.position).take n) = .error (.endOfInput n)) ∧
      ∀ e budget, c.next = .error e → Cursor.nextAll (budget + 1) c = [(.error e, c)]) ∧
    Cursor.Yields (Cursor.start data) (decodeAll data) ∧
    ∀ answers, Cursor.Yields (Cursor.start data) answers → answers = decodeAll data := by
  have all : Cursor.Yields (Cursor.start data) (decodeAll data) :=
    Cursor.yields_nextAll (Nat.lt_succ_self _)
  refine ⟨fun c reached => ⟨reached.rest_eq, reached.position_le, ?_, ?_⟩, all,
    fun answers other => other.unique all⟩
  · intro v c' read
    obtain ⟨d, good, rfl, spans⟩ := Cursor.exists_spans_of_next read
    have size : c'.position - c.position = d.text.length := by
      rw [spans.position, Nat.add_sub_cancel_left]
    rw [reached.segment_eq spans, size]
    refine ⟨spans.position_lt d.headed_text, (reached.next read).position_le, ?_,
      fun s => Cursor.next_append good s, fun n cut => decode_take good cut⟩
    exact decode_eq_ok_iff.2 ⟨d, good.1, good.2, rfl, rfl⟩
  · exact fun e budget failed => Cursor.nextAll_of_error failed

theorem next_takes_one_value_sample :
    decode [49, 58, 97] = .ok (.bytes [97]) ∧
    decode [49, 58] = .error (.endOfInput 2) ∧
    (Cursor.start [49, 58, 97, 101]).next = .ok (.bytes [97], ⟨3, [101]⟩) ∧
    Cursor.nextAll 1 ⟨6, [120]⟩ = [(.error (.unexpectedByte 120 6), ⟨6, [120]⟩)] := by
  obtain ⟨each, -⟩ := next_takes_one_value [105, 55, 101, 49, 58, 97, 120]
  have first : Cursor.Reached [105, 55, 101, 49, 58, 97, 120] ⟨3, [49, 58, 97, 120]⟩ :=
    .next (v := .integer 7) .start rfl
  have read : Cursor.next ⟨3, [49, 58, 97, 120]⟩ = .ok (.bytes [97], ⟨6, [120]⟩) := rfl
  obtain ⟨-, -, taken, -⟩ := each _ first
  obtain ⟨-, -, alone, followed, cut⟩ := taken _ _ read
  obtain ⟨-, -, -, stays⟩ := each _ (first.next read)
  exact ⟨alone, cut 2 (by decide), followed [101], stays _ 0 rfl⟩

end Swarm.Bencode
