import Mathlib.Data.List.Basic
import Swarm.Wire.Stream

/-!
Frames on a stream. What is written as a frame is read as the same message, whatever follows it, and
a message that was read stood in front of what is left.

A stream is known by how it is read, so what is said of it is said of every reader that reads octets
off the front of a sequence (`Reader.Serves`).
-/

namespace Swarm

/-! ### Single messages -/

theorem MessageKind.ofOctet?_of_octet? {kind : MessageKind} {octet : UInt8}
    (tells : kind.octet? = some octet) : ofOctet? octet = some kind := by
  cases kind <;> cases tells <;> rfl

theorem MessageKind.octet?_of_ofOctet? {kind : MessageKind} {octet : UInt8}
    (told : ofOctet? octet = some kind) : kind.octet? = some octet := by
  have found := List.find?_some told
  exact eq_of_beq found

theorem BigEndian.exists_encode32 (w : UInt32) :
    ∃ a b c d, encode32 w = [a, b, c, d] ∧ decode32 a b c d = w :=
  ⟨_, _, _, _, rfl, decode32_encode32 w⟩

namespace Message

/-- A message is read from its payload, and from a longer one unless its last field takes all there
is. -/
theorem ofPayload_payload_append (m : Message) {rest : Bytes}
    (whole : m.kind = .bitfield ∨ m.kind = .piece → rest = []) :
    ofPayload m.kind (m.payload ++ rest) = .ok m := by
  cases m with
  | «have» i =>
    obtain ⟨a, b, c, d, octets, word⟩ := BigEndian.exists_encode32 i
    simp only [kind, payload, octets, List.cons_append, ofPayload, word]
  | bitfield bits =>
    rw [whole (.inl rfl), List.append_nil]
    rfl
  | request index start length =>
    obtain ⟨a, b, c, d, octets, word⟩ := BigEndian.exists_encode32 index
    obtain ⟨e, f, g, h, octets', word'⟩ := BigEndian.exists_encode32 start
    obtain ⟨i, j, k, l, octets'', word''⟩ := BigEndian.exists_encode32 length
    simp only [kind, payload, octets, octets', octets'', List.cons_append, List.nil_append,
      ofPayload, word, word', word'']
  | piece index start block =>
    obtain ⟨a, b, c, d, octets, word⟩ := BigEndian.exists_encode32 index
    obtain ⟨e, f, g, h, octets', word'⟩ := BigEndian.exists_encode32 start
    rw [whole (.inr rfl), List.append_nil]
    simp only [kind, payload, octets, octets', List.cons_append, List.nil_append, ofPayload, word,
      word']
  | cancel index start length =>
    obtain ⟨a, b, c, d, octets, word⟩ := BigEndian.exists_encode32 index
    obtain ⟨e, f, g, h, octets', word'⟩ := BigEndian.exists_encode32 start
    obtain ⟨i, j, k, l, octets'', word''⟩ := BigEndian.exists_encode32 length
    simp only [kind, payload, octets, octets', octets'', List.cons_append, List.nil_append,
      ofPayload, word, word', word'']
  | port listening =>
    simp only [kind, payload, BigEndian.encode16, List.cons_append, ofPayload,
      BigEndian.decode16_encode16]
  | _ => rfl

theorem ofPayload_payload (m : Message) : ofPayload m.kind m.payload = .ok m := by
  have read := m.ofPayload_payload_append fun _ => rfl
  rwa [List.append_nil] at read

theorem frame_append (m : Message) (rest : Bytes) : m.frame ++ rest =
    BigEndian.encode32 (UInt32.ofNat m.body.length) ++ (m.body ++ rest) := by
  rw [frame, length_body, List.append_assoc]

theorem parse_body (m : Message) : parse m.body = .ok m := by
  cases octet : m.kind.octet? with
  | none => cases m <;> first | rfl | cases octet
  | some o =>
    rw [body, octet]
    simp only [Option.toList_some, List.singleton_append, parse,
      MessageKind.ofOctet?_of_octet? octet, m.ofPayload_payload]

theorem ofFrame_of_body {body : Bytes} (fits : body.length < UInt32.size) :
    ofFrame (BigEndian.encode32 (UInt32.ofNat body.length) ++ body) = parse body := by
  obtain ⟨a, b, c, d, octets, word⟩ := BigEndian.exists_encode32 (UInt32.ofNat body.length)
  have declared : (BigEndian.decode32 a b c d).toNat = body.length := by
    rw [word, UInt32.toNat_ofNat_of_lt' fits]
  simp only [octets, List.cons_append, List.nil_append, ofFrame, declared, if_true]

/-- The frame of a message that is not too long for its length to be told is read as the message. -/
theorem ofFrame_frame {m : Message} (fits : m.length < UInt32.size) : ofFrame m.frame = .ok m := by
  rw [← m.length_body] at fits
  rw [frame, ← m.length_body, ofFrame_of_body fits, m.parse_body]

theorem eq_of_frame_eq {m n : Message} (fits : m.length < UInt32.size)
    (fits' : n.length < UInt32.size) (same : m.frame = n.frame) : m = n := by
  have read := ofFrame_frame fits
  rw [same, ofFrame_frame fits'] at read
  exact (Except.ok.inj read).symm

theorem kind_of_ofPayload {kind : MessageKind} {payload : Bytes} {m : Message}
    (read : ofPayload kind payload = .ok m) : m.kind = kind := by
  unfold ofPayload at read
  split at read
  all_goals first
    | (cases read; rfl)
    | (split at read <;> cases read; rfl)

theorem parse_eq_ok_iff {b : Bytes} {m : Message} : parse b = .ok m ↔
    (b = [] ∧ m = keepAlive) ∨ ∃ octet payload, b = octet :: payload ∧
      m.kind.octet? = some octet ∧ ofPayload m.kind payload = .ok m := by
  cases b with
  | nil => simp [parse, eq_comm]
  | cons octet payload =>
    cases told : MessageKind.ofOctet? octet with
    | none =>
      simp only [parse, told]
      refine iff_of_false (fun wrong => by cases wrong) ?_
      rintro (⟨wrong, -⟩ | ⟨_, _, same, tells, -⟩)
      · cases wrong
      · cases same
        cases told.symm.trans (MessageKind.ofOctet?_of_octet? tells)
    | some kind =>
      simp only [parse, told]
      constructor
      · intro read
        cases kind_of_ofPayload read
        exact Or.inr ⟨octet, payload, rfl, MessageKind.octet?_of_ofOctet? told, read⟩
      · rintro (⟨wrong, -⟩ | ⟨_, _, same, tells, read⟩)
        · cases wrong
        · cases same
          cases told.symm.trans (MessageKind.ofOctet?_of_octet? tells)
          exact read

/-- A keep-alive and a bitfield are read from their own bodies only. -/
theorem eq_body_of_parse {b : Bytes} {m : Message} (read : parse b = .ok m)
    (kind : m.kind = .keepAlive ∨ m.kind = .bitfield) : b = m.body := by
  obtain ⟨rfl, rfl⟩ | ⟨octet, payload, rfl, tells, rest⟩ := parse_eq_ok_iff.1 read
  · rfl
  · rcases kind with kind | kind
    · rw [kind] at tells
      cases tells
    · rw [kind] at tells rest
      cases tells
      cases rest
      rfl

end Message

/-! ### Handshakes -/

theorem Bytes.field?_eq_some_iff {n : Nat} {b rest : Bytes} {f : Fixed n} :
    field? n b = some (f, rest) ↔ b = f.1 ++ rest := by
  unfold field?
  constructor
  · intro found
    dsimp only at found
    split at found
    next =>
      cases found
      exact (List.take_append_drop n b).symm
    next => cases found
  · rintro rfl
    have head : (f.1 ++ rest).take n = f.1 := List.take_left' f.2
    have tail : (f.1 ++ rest).drop n = rest := List.drop_left' f.2
    simp only [head, tail, f.2, dif_pos]

namespace Handshake

theorem fields?_eq_some_iff {b : Bytes} {h : Handshake} : fields? b = some h ↔
    ∃ rest, b = h.reserved.1 ++ (h.infoHash.1 ++ (h.peerId.1 ++ rest)) := by
  constructor
  · intro found
    obtain ⟨⟨reserved, b'⟩, first, found⟩ := Option.bind_eq_some_iff.1 found
    obtain ⟨⟨infoHash, b''⟩, second, found⟩ := Option.bind_eq_some_iff.1 found
    obtain ⟨⟨peerId, rest⟩, third, found⟩ := Option.bind_eq_some_iff.1 found
    cases found
    rw [Bytes.field?_eq_some_iff.1 first, Bytes.field?_eq_some_iff.1 second,
      Bytes.field?_eq_some_iff.1 third]
    exact ⟨rest, rfl⟩
  · rintro ⟨rest, rfl⟩
    simp only [fields?, Bytes.field?_eq_some_iff.2 rfl, Option.bind_eq_bind, Option.bind_some,
      Option.pure_def]

theorem decode_eq_ok_iff {b : Bytes} {h : Handshake} :
    decode b = .ok h ↔ ∃ rest, b = h.encode ++ rest := by
  constructor
  · intro read
    unfold decode at read
    split at read
    next => cases read
    next =>
      split at read
      next => cases read
      next found =>
        split at read
        next named =>
          cases read
          obtain ⟨rest, fields⟩ := fields?_eq_some_iff.1 found
          refine ⟨rest, ?_⟩
          rw [← List.take_append_drop header.length (_ :: _), named, fields, encode]
          simp only [List.append_assoc]
        next => cases read
  · rintro ⟨rest, rfl⟩
    have found : fields? ((h.encode ++ rest).drop header.length) = some h := by
      refine fields?_eq_some_iff.2 ⟨rest, ?_⟩
      rw [encode, List.append_assoc, List.drop_left]
      simp only [List.append_assoc]
    have named : (h.encode ++ rest).take header.length = header := by
      rw [encode, List.append_assoc, List.take_left]
    have filled : ∃ octet more, h.encode ++ rest = octet :: more := ⟨_, _, rfl⟩
    obtain ⟨octet, more, same⟩ := filled
    rw [same] at found named ⊢
    simp only [decode, found, named, if_true]

theorem encode_append_inj {h h' : Handshake} {rest rest' : Bytes}
    (same : h.encode ++ rest = h'.encode ++ rest') : h = h' ∧ rest = rest' := by
  obtain ⟨front, tail⟩ := List.append_inj same (by rw [h.length_encode, h'.length_encode])
  have read := decode_eq_ok_iff.2 ⟨[], (List.append_nil h.encode).symm⟩
  rw [front, decode_eq_ok_iff.2 ⟨[], (List.append_nil h'.encode).symm⟩] at read
  exact ⟨(Except.ok.inj read).symm, tail⟩

theorem check_eq_ok_iff {h : Handshake} {infoHash : Digest} :
    h.check infoHash = .ok () ↔ h.infoHash = infoHash := by
  unfold check
  split
  next same => exact iff_of_true rfl same
  next other => exact iff_of_false nofun other

/-- A handshake does not have the length that it would tell as a frame. -/
theorem ofFrame_encode (h : Handshake) : ∃ e, Message.ofFrame h.encode = .error e := by
  obtain ⟨tail, same, size⟩ : ∃ tail, h.encode = 0x13 :: 0x42 :: 0x69 :: 0x74 :: tail ∧
      tail.length = 64 :=
    ⟨_, rfl, Nat.add_right_cancel (m := 4) h.length_encode⟩
  have declared : (BigEndian.decode32 0x13 0x42 0x69 0x74).toNat = 323119476 := by decide
  rw [same]
  simp only [Message.ofFrame, declared, size]
  exact ⟨_, rfl⟩

end Handshake

/-! ### Streams -/

namespace Reader

/-! The four octets in front of a body are the written form of its length. -/

theorem exists_header {b : Bytes} (enough : 4 ≤ b.length) :
    ∃ p q u v tail, b = p :: q :: u :: v :: tail := by
  match b, enough with
  | p :: q :: u :: v :: tail, _ => exact ⟨p, q, u, v, tail, rfl⟩

theorem encode32_declaredLength (p q u v : UInt8) :
    BigEndian.encode32 (UInt32.ofNat (declaredLength [p, q, u, v])) = [p, q, u, v] := by
  rw [declaredLength, UInt32.ofNat_toNat, BigEndian.encode32_decode32]

theorem declaredLength_of_header {p q u v : UInt8} {tail body rest : Bytes}
    (accepted : body.length ≤ maxFrameLength)
    (same : p :: q :: u :: v :: tail =
      BigEndian.encode32 (UInt32.ofNat body.length) ++ (body ++ rest)) :
    declaredLength [p, q, u, v] = body.length ∧ tail = body ++ rest := by
  have small : body.length < UInt32.size := Nat.lt_of_le_of_lt accepted (by decide)
  obtain ⟨p', q', u', v', octets, word⟩ := BigEndian.exists_encode32 (UInt32.ofNat body.length)
  rw [octets] at same
  cases same
  exact ⟨by rw [declaredLength, word, UInt32.toNat_ofNat_of_lt' small], rfl⟩

theorem body_unique {body body' rest rest' : Bytes} (accepted : body.length ≤ maxFrameLength)
    (accepted' : body'.length ≤ maxFrameLength)
    (same : BigEndian.encode32 (UInt32.ofNat body.length) ++ (body ++ rest) =
      BigEndian.encode32 (UInt32.ofNat body'.length) ++ (body' ++ rest')) :
    body' = body ∧ rest' = rest := by
  obtain ⟨p, q, u, v, octets, word⟩ := BigEndian.exists_encode32 (UInt32.ofNat body.length)
  have own : p :: q :: u :: v :: (body ++ rest) =
      BigEndian.encode32 (UInt32.ofNat body.length) ++ (body ++ rest) := by
    rw [octets]
    rfl
  obtain ⟨length, tail⟩ := declaredLength_of_header accepted' (own.trans same)
  obtain ⟨length', -⟩ := declaredLength_of_header accepted own
  have sizes : body'.length = body.length := length.symm.trans length'
  exact ⟨(List.append_inj tail sizes.symm).1.symm, (List.append_inj tail sizes.symm).2.symm⟩

section Relations

variable {σ : Type} {read : Reader σ} {R : σ → σ → Prop}

/-! What relates the states before and after each read relates those before and after a handshake or
a message. -/

theorem handshake_relates (each : ∀ n s, R s (read n s).2) (s : σ) : R s (handshake read s).2 := by
  have first := each Handshake.size s
  unfold handshake
  split
  all_goals
    next came =>
      rw [came] at first
      exact first

theorem message_relates (each : ∀ n s, R s (read n s).2)
    (trans : ∀ {s t u}, R s t → R t u → R s u) (s : σ) : R s (message read s).2 := by
  have first := each 4 s
  unfold message
  split
  next came =>
    rw [came] at first
    exact first
  next header t came =>
    rw [came] at first
    dsimp only
    split
    · exact first
    · split
      · exact first
      · have second := each (declaredLength header) t
        split
        all_goals
          next body =>
            rw [body] at second
            exact trans first second

end Relations

/-- A reader takes octets off the front of those still to come, `holds s b` saying that in state `s`
these are `b`. Where there are too few, it uses them up, and the fault is always the same. -/
structure Serves {σ : Type} (read : Reader σ) (fault : ReadFault) (holds : σ → Bytes → Prop) :
    Prop where
  enough : ∀ {s : σ} {head rest : Bytes}, holds s (head ++ rest) →
    ∃ s', read head.length s = (.ok head, s') ∧ holds s' rest
  short : ∀ {s : σ} {b : Bytes} {n : Nat}, holds s b → b.length < n →
    ∃ s', read n s = (.error fault, s') ∧ holds s' []

variable {σ : Type} {read : Reader σ} {fault : ReadFault} {holds : σ → Bytes → Prop} {s : σ}

/-- Where a length is told that is too large, only the four octets that tell it are taken. -/
theorem Serves.message_of_large (serves : Serves read fault holds) {p q u v : UInt8} {rest : Bytes}
    (large : declaredLength [p, q, u, v] > maxFrameLength)
    (ahead : holds s ([p, q, u, v] ++ rest)) :
    ∃ s', message read s = (.error (.wire (.tooLarge (declaredLength [p, q, u, v]))), s') ∧
      holds s' rest := by
  obtain ⟨s', first, behind⟩ := serves.enough ahead
  have header : read 4 s = (.ok [p, q, u, v], s') := first
  have some : declaredLength [p, q, u, v] ≠ 0 := Nat.ne_zero_of_lt large
  exact ⟨s', by simp only [message, header, if_neg some, if_pos large], behind⟩

theorem Serves.message_cases (serves : Serves read fault holds) {b : Bytes} (ahead : holds s b) :
    (∃ body rest s', b = BigEndian.encode32 (UInt32.ofNat body.length) ++ (body ++ rest) ∧
      body.length ≤ maxFrameLength ∧ message read s = ((Message.parse body).mapError .wire, s') ∧
      holds s' rest) ∨
    ∃ e s' rest, message read s = (.error e, s') ∧ holds s' rest ∧
      ∀ body rest, body.length ≤ maxFrameLength →
        b ≠ BigEndian.encode32 (UInt32.ofNat body.length) ++ (body ++ rest) := by
  by_cases headless : b.length < 4
  · obtain ⟨s', first, used⟩ := serves.short ahead headless
    refine Or.inr ⟨.ofRead fault, s', [], by rw [message, first], used, ?_⟩
    rintro body rest - rfl
    rw [List.length_append, BigEndian.length_encode32] at headless
    omega
  obtain ⟨p, q, u, v, tail, rfl⟩ := exists_header (Nat.le_of_not_lt headless)
  have split : holds s ([p, q, u, v] ++ tail) := ahead
  obtain ⟨s', first, behind⟩ := serves.enough split
  have header : read 4 s = (.ok [p, q, u, v], s') := first
  by_cases empty : declaredLength [p, q, u, v] = 0
  · refine Or.inl ⟨[], tail, s', ?_, Nat.zero_le _, ?_, behind⟩
    · rw [List.length_nil, ← empty, encode32_declaredLength]
      rfl
    · simp only [message, header, empty, if_true]
      rfl
  by_cases large : declaredLength [p, q, u, v] > maxFrameLength
  · obtain ⟨s'', refused, behind⟩ := serves.message_of_large large split
    refine Or.inr ⟨_, s'', tail, refused, behind, fun body rest accepted same => ?_⟩
    have length := (declaredLength_of_header accepted same).1
    omega
  by_cases cut : tail.length < declaredLength [p, q, u, v]
  · obtain ⟨s'', second, used⟩ := serves.short behind cut
    refine Or.inr ⟨.ofRead fault, s'', [], ?_, used, ?_⟩
    · simp only [message, header, if_neg empty, if_neg large, second]
    · intro body rest accepted same
      obtain ⟨length, rfl⟩ := declaredLength_of_header accepted same
      rw [List.length_append] at cut
      omega
  · have full : (tail.take (declaredLength [p, q, u, v])).length = declaredLength [p, q, u, v] :=
      List.length_take_of_le (Nat.le_of_not_lt cut)
    rw [← List.take_append_drop (declaredLength [p, q, u, v]) tail] at behind
    obtain ⟨s'', second, left⟩ := serves.enough behind
    rw [full] at second
    refine Or.inl ⟨tail.take (declaredLength [p, q, u, v]), _, s'', ?_, ?_, ?_, left⟩
    · rw [full, encode32_declaredLength, List.take_append_drop]
      rfl
    · rw [full]
      exact Nat.le_of_not_lt large
    · simp only [message, header, if_neg empty, if_neg large, second]

/-- Behind its length a body is read as it is alone, whether it is accepted or refused, and nothing
of what follows it is touched. -/
theorem Serves.message_of_body (serves : Serves read fault holds) {body rest : Bytes}
    (accepted : body.length ≤ maxFrameLength)
    (ahead : holds s (BigEndian.encode32 (UInt32.ofNat body.length) ++ (body ++ rest))) :
    ∃ s', message read s = ((Message.parse body).mapError .wire, s') ∧ holds s' rest := by
  rcases serves.message_cases ahead with ⟨body', rest', s', same, accepted', came, left⟩ |
    ⟨_, _, _, -, -, wrong⟩
  · obtain ⟨rfl, rfl⟩ := body_unique accepted accepted' same
    exact ⟨s', came, left⟩
  · exact absurd rfl (wrong body rest accepted)

theorem Serves.message_frame (serves : Serves read fault holds) {m : Message} {rest : Bytes}
    (fits : m.length ≤ maxFrameLength) (ahead : holds s (m.frame ++ rest)) :
    ∃ s', message read s = (.ok m, s') ∧ holds s' rest := by
  rw [← m.length_body] at fits
  rw [m.frame_append] at ahead
  obtain ⟨s', came, left⟩ := serves.message_of_body fits ahead
  rw [m.parse_body] at came
  exact ⟨s', came, left⟩

theorem Serves.handshake_cases (serves : Serves read fault holds) {b : Bytes} (ahead : holds s b) :
    (∃ h rest s', b = h.encode ++ rest ∧ handshake read s = (.ok h, s') ∧ holds s' rest) ∨
    ∃ e s' rest, handshake read s = (.error e, s') ∧ holds s' rest ∧
      ∀ (h : Handshake) (rest : Bytes), b ≠ h.encode ++ rest := by
  by_cases cut : b.length < Handshake.size
  · obtain ⟨s', read, used⟩ := serves.short ahead cut
    refine Or.inr ⟨.ofRead fault, s', [], by rw [handshake, read], used, ?_⟩
    rintro h rest rfl
    rw [List.length_append, h.length_encode] at cut
    omega
  have full : (b.take Handshake.size).length = Handshake.size :=
    List.length_take_of_le (Nat.le_of_not_lt cut)
  rw [← List.take_append_drop Handshake.size b] at ahead
  obtain ⟨s', data, left⟩ := serves.enough ahead
  rw [full] at data
  cases decoded : Handshake.decode (b.take Handshake.size) with
  | ok h =>
    obtain ⟨more, whole⟩ := Handshake.decode_eq_ok_iff.1 decoded
    have size := congrArg List.length whole
    rw [full, List.length_append, h.length_encode] at size
    cases List.eq_nil_of_length_eq_zero (show more.length = 0 by omega)
    rw [List.append_nil] at whole
    refine Or.inl ⟨h, b.drop Handshake.size, s', ?_, ?_, left⟩
    · rw [← whole, List.take_append_drop]
    · simp only [handshake, data, decoded]
      rfl
  | error e =>
    refine Or.inr ⟨.failed e, s', b.drop Handshake.size, ?_, left, ?_⟩
    · simp only [handshake, data, decoded]
      rfl
    · rintro h rest rfl
      rw [List.take_left' h.length_encode] at decoded
      cases decoded.symm.trans (Handshake.decode_eq_ok_iff.2 ⟨[], (List.append_nil _).symm⟩)

end Reader

end Swarm
