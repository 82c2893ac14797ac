import Swarm.Proofs.Wire.Framing

/-!
A handshake and messages written one after the other, and what is read of them when the stream ends
early. What lies in front of the end in full is read as it was written, and the reading stops at the
first part that does not (`transcript_read_back`).
-/

namespace Swarm

def Handshake.transcript (h : Handshake) (ms : List Message) : Bytes :=
  h.encode ++ ms.flatMap Message.frame

/-- Messages with the places behind their frames, the first of which begins at `start`. -/
def Message.placed (start : Nat) : List Message → List (Message × Nat)
  | [] => []
  | m :: ms => (m, start + (4 + m.length)) :: placed (start + (4 + m.length)) ms

namespace Message

theorem length_frame (m : Message) : m.frame.length = 4 + m.length := by
  rw [frame, List.length_append, BigEndian.length_encode32, length_body]

theorem map_fst_placed (start : Nat) (ms : List Message) :
    (placed start ms).map Prod.fst = ms := by
  induction ms generalizing start with
  | nil => rfl
  | cons m ms ih => rw [placed, List.map_cons, ih]

theorem bounds_of_mem_placed {start : Nat} {ms : List Message} {p : Message × Nat}
    (member : p ∈ placed start ms) :
    start ≤ p.2 ∧ p.2 ≤ start + (ms.flatMap frame).length := by
  induction ms generalizing start with
  | nil => cases member
  | cons m ms ih =>
    rw [List.flatMap_cons, List.length_append, m.length_frame]
    rcases List.mem_cons.1 member with rfl | later
    · exact ⟨Nat.le_add_right _ _, Nat.add_le_add_left (Nat.le_add_right _ _) _⟩
    · obtain ⟨first, last⟩ := ih later
      omega

theorem filter_placed_of_lt {start limit : Nat} {m : Message} {ms : List Message}
    (cut : limit < start + (4 + m.length)) : (placed start (m :: ms)).filter (·.2 ≤ limit) = [] := by
  refine List.filter_eq_nil_iff.2 fun p member => ?_
  rw [decide_eq_true_eq, Nat.not_le]
  rcases List.mem_cons.1 member with rfl | later
  · exact cut
  · exact Nat.lt_of_lt_of_le cut (bounds_of_mem_placed later).1

theorem filter_placed_of_le {start limit : Nat} {m : Message} {ms : List Message}
    (inside : start + (4 + m.length) ≤ limit) : (placed start (m :: ms)).filter (·.2 ≤ limit) =
      (m, start + (4 + m.length)) :: (placed (start + (4 + m.length)) ms).filter (·.2 ≤ limit) :=
  List.filter_cons_of_pos (decide_eq_true inside)

end Message

namespace Reader

theorem serves_ofBytes : Serves ofBytes (.system .earlyEnd) Eq where
  enough := by
    rintro _ head rest rfl
    exact ⟨rest, by rw [ofBytes, Bytes.split?_eq_some_iff.2 ⟨rfl, rfl⟩], rfl⟩
  short := by
    rintro _ b n rfl less
    exact ⟨[], by rw [ofBytes, Bytes.split?_eq_none_iff.2 less], rfl⟩

variable {m : Message} {n : Nat}

theorem message_frame_append (fits : m.length ≤ maxFrameLength) (rest : Bytes) :
    message ofBytes (m.frame ++ rest) = (.ok m, rest) := by
  obtain ⟨left, read, rfl⟩ := serves_ofBytes.message_frame fits rfl
  exact read

theorem message_take_frame (fits : m.length ≤ maxFrameLength) (cut : n < 4 + m.length) :
    message ofBytes (m.frame.take n) = (.error (.system .earlyEnd), []) := by
  have size : (m.frame.take n).length = n :=
    List.length_take_of_le (by rw [m.length_frame]; exact Nat.le_of_lt cut)
  by_cases headless : n < 4
  · obtain ⟨_, read, rfl⟩ := serves_ofBytes.short (n := 4) rfl (size.symm ▸ headless)
    rw [message, read]
    rfl
  · -- The header is there, and tells the length of a body that is not.
    have header : m.frame.take n =
        BigEndian.encode32 (UInt32.ofNat m.length) ++ m.body.take (n - 4) := by
      rw [Message.frame, List.take_append, List.take_of_length_le (Nat.le_of_not_lt headless)]
      rfl
    obtain ⟨_, first, rfl⟩ := serves_ofBytes.enough header
    obtain ⟨p, q, u, v, octets, word⟩ := BigEndian.exists_encode32 (UInt32.ofNat m.length)
    have small : m.length < UInt32.size := Nat.lt_of_le_of_lt fits (by decide)
    have declared : declaredLength (BigEndian.encode32 (UInt32.ofNat m.length)) = m.length := by
      rw [octets, declaredLength, word, UInt32.toNat_ofNat_of_lt' small]
    have less : (m.body.take (n - 4)).length < m.length := by
      rw [List.length_take]
      omega
    obtain ⟨_, second, rfl⟩ := serves_ofBytes.short rfl less
    rw [BigEndian.length_encode32] at first
    rw [message, first]
    simp only [declared, second]
    rw [if_neg (by omega), if_neg (by omega)]
    rfl

/-- Of messages that are cut off at some place those in front of it are read. -/
theorem messages_take {ms : List Message} (fits : ∀ m ∈ ms, m.length ≤ maxFrameLength)
    {budget : Nat} (enough : ms.length < budget) (start n : Nat) :
    messages budget start ((ms.flatMap Message.frame).take n) =
      ((Message.placed start ms).filter (·.2 ≤ start + n), some (.system .earlyEnd)) := by
  induction ms generalizing budget start n with
  | nil =>
    obtain ⟨budget, rfl⟩ := Nat.exists_eq_add_one_of_ne_zero (Nat.ne_zero_of_lt enough)
    rw [List.flatMap_nil, List.take_nil]
    rfl
  | cons m ms ih =>
    obtain ⟨budget, rfl⟩ := Nat.exists_eq_add_one_of_ne_zero (Nat.ne_zero_of_lt enough)
    have first := fits m List.mem_cons_self
    rw [List.flatMap_cons]
    by_cases inside : 4 + m.length ≤ n
    · obtain ⟨rest, rfl⟩ := Nat.exists_eq_add_of_le inside
      have split : (m.frame ++ ms.flatMap Message.frame).take (4 + m.length + rest) =
          m.frame ++ (ms.flatMap Message.frame).take rest := by
        rw [← m.length_frame, List.take_length_add_append]
      have more := ih (fun m member => fits m (List.mem_cons_of_mem _ member))
        (Nat.lt_of_succ_lt_succ enough) (start + (4 + m.length)) rest
      have consumed (r : Bytes) : (m.frame ++ r).length - r.length = 4 + m.length := by
        rw [List.length_append, Nat.add_sub_cancel_right, m.length_frame]
      rw [split, Message.filter_placed_of_le (by omega), messages, message_frame_append first]
      simp only [consumed, more]
      rw [Nat.add_assoc start]
    · have cut : n < 4 + m.length := Nat.lt_of_not_le inside
      rw [Message.filter_placed_of_lt (by omega), List.take_append_of_le_length
        (by rw [m.length_frame]; exact Nat.le_of_lt cut), messages, message_take_frame first cut]

theorem handshake_encode_append (h : Handshake) (rest : Bytes) :
    handshake ofBytes (h.encode ++ rest) = (.ok h, rest) := by
  obtain ⟨_, read, rfl⟩ := serves_ofBytes.enough (Eq.refl (h.encode ++ rest))
  rw [h.length_encode] at read
  have whole : Handshake.decode h.encode = .ok h :=
    Handshake.decode_eq_ok_iff.2 ⟨[], (List.append_nil _).symm⟩
  rw [handshake, read]
  simp only [whole]
  rfl

theorem handshake_of_short {b : Bytes} (cut : b.length < Handshake.size) :
    handshake ofBytes b = (.error (.failed .noResponse), []) := by
  obtain ⟨_, read, rfl⟩ := serves_ofBytes.short rfl cut
  rw [handshake, read]
  rfl

end Reader

/-- A handshake and messages of accepted length are read back from what is written of them: exactly
these, in their order and with nothing left out between them, and then the end of the stream. If the
stream is cut off at some place, then the handshake is read if it lies in front of the cut in full,
and behind it exactly those messages that do; what the cut leaves of a further one gives no message
but an early end. -/
theorem Handshake.transcript_read_back (h : Handshake) {ms : List Message} {budget : Nat}
    (fits : ∀ m ∈ ms, m.body.length ≤ maxFrameLength) (enough : ms.length < budget) :
    (∃ rest, Reader.handshake Reader.ofBytes (h.transcript ms) = (.ok h, rest) ∧
      (h.transcript ms).length = Handshake.size + rest.length ∧
      Reader.messages budget Handshake.size rest =
        (Message.placed Handshake.size ms, some (.system .earlyEnd)) ∧
      (Message.placed Handshake.size ms).map Prod.fst = ms) ∧
    ∀ n, (n < Handshake.size → Reader.handshake Reader.ofBytes ((h.transcript ms).take n) =
        (.error (.failed .noResponse), [])) ∧
      (Handshake.size ≤ n → ∃ rest,
        Reader.handshake Reader.ofBytes ((h.transcript ms).take n) = (.ok h, rest) ∧
        ((h.transcript ms).take n).length = Handshake.size + rest.length ∧
        Reader.messages budget Handshake.size rest =
          ((Message.placed Handshake.size ms).filter (·.2 ≤ n), some (.system .earlyEnd))) := by
  have accepted : ∀ m ∈ ms, m.length ≤ maxFrameLength := fun m member =>
    m.length_body ▸ fits m member
  refine ⟨⟨ms.flatMap Message.frame, Reader.handshake_encode_append h _, ?_, ?_,
    Message.map_fst_placed _ _⟩, fun n => ⟨fun cut => Reader.handshake_of_short ?_, fun inside => ?_⟩⟩
  · rw [transcript, List.length_append, h.length_encode]
  · -- Nothing is cut off by a place behind the last frame.
    have all := Reader.messages_take accepted enough Handshake.size (ms.flatMap Message.frame).length
    rwa [List.take_length, List.filter_eq_self.2 fun p member =>
      decide_eq_true (Message.bounds_of_mem_placed member).2] at all
  · exact Nat.lt_of_le_of_lt (List.length_take_le _ _) cut
  · obtain ⟨m, rfl⟩ := Nat.exists_eq_add_of_le inside
    have split : (h.transcript ms).take (Handshake.size + m) =
        h.encode ++ (ms.flatMap Message.frame).take m := by
      rw [transcript, ← h.length_encode, List.take_length_add_append]
    rw [split]
    exact ⟨_, Reader.handshake_encode_append h _, by rw [List.length_append, h.length_encode],
      Reader.messages_take accepted enough Handshake.size m⟩

theorem Handshake.transcript_read_back_sample :
    ∃ rest, Reader.handshake Reader.ofBytes
        ((transcript ⟨default, default, default⟩ [.keepAlive, .choke]).take 76) =
          (.ok ⟨default, default, default⟩, rest) ∧
      Reader.messages 3 68 rest = ([(.keepAlive, 72)], some (.system .earlyEnd)) := by
  have fits : ∀ m ∈ [Message.keepAlive, .choke], m.body.length ≤ maxFrameLength := by decide
  obtain ⟨-, cut⟩ := transcript_read_back ⟨default, default, default⟩ fits (show 2 < 3 by decide)
  obtain ⟨rest, first, -, more⟩ := (cut 76).2 (by decide)
  exact ⟨rest, first, more⟩

end Swarm
