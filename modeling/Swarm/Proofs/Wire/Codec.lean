import Mathlib.Algebra.Ring.Nat
import Swarm.Proofs.Wire.Transcript

/-!
Messages and their octets, in both directions.

What is written of a message is read as the message; what is read as a message begins with what is
written of it, and a body is refused for two reasons only (`Message.codec_exact`). On a stream a
body is read as it is in memory, and how much is taken off the stream does not depend on what is in
the body, so that a body that is refused does not hide the frames behind it (`Reader.in_frame`).
-/

namespace Swarm

def MessageKind.required : MessageKind → Nat
  | .have => 4
  | .request => 12
  | .piece => 8
  | .cancel => 12
  | .port => 2
  | _ => 0

theorem MessageKind.ofOctet?_eq_none_iff {octet : UInt8} : ofOctet? octet = none ↔ 9 < octet := by
  simp only [ofOctet?, List.find?_eq_none, all, List.forall_mem_cons, octet?, beq_iff_eq,
    Option.some.injEq, reduceCtorEq, not_false_eq_true, List.not_mem_nil, IsEmpty.forall_iff,
    implies_true, and_true, true_and, ← UInt8.toNat_inj, UInt8.lt_iff_toNat_lt, UInt8.toNat_zero,
    UInt8.reduceToNat]
  omega

/-! ### Words in front of octets -/

theorem BigEndian.exists_encode16_append {b : Bytes} (enough : 2 ≤ b.length) :
    ∃ w rest, b = encode16 w ++ rest := by
  match b, enough with
  | p :: q :: rest, _ => exact ⟨decode16 p q, rest, by rw [encode16_decode16]; rfl⟩

theorem BigEndian.exists_encode32_append {n : Nat} {b : Bytes} (enough : 4 + n ≤ b.length) :
    ∃ w rest, b = encode32 w ++ rest ∧ n ≤ rest.length := by
  obtain ⟨p, q, u, v, rest, rfl⟩ := Reader.exists_header (Nat.le_of_add_right_le enough)
  refine ⟨decode32 p q u v, rest, by rw [encode32_decode32]; rfl, ?_⟩
  simp only [List.length_cons] at enough
  omega

theorem BigEndian.toNat_decode32 (a b c d : UInt8) : (decode32 a b c d).toNat =
    a.toNat * 16777216 + b.toNat * 65536 + c.toNat * 256 + d.toNat := by
  have ha := a.toNat_lt
  have hb := b.toNat_lt
  have hc := c.toNat_lt
  have hd := d.toNat_lt
  exact UInt32.toNat_ofNat_of_lt' (by unfold UInt32.size; omega)

namespace Message

variable {kind : MessageKind} {payload rest : Bytes}

/-! ### What a payload holds -/

theorem required_le_length_payload (m : Message) : m.kind.required ≤ m.payload.length := by
  cases m with
  | piece index start block =>
    simp only [kind, MessageKind.required, payload, List.length_append, BigEndian.length_encode32]
    omega
  | _ => first | exact Nat.zero_le _ | exact Nat.le_refl _

/-- A payload that is not too short begins with that of a message, and has nothing behind it where
the last field takes all there is. -/
theorem exists_payload_append (enough : kind.required ≤ payload.length) :
    ∃ (m : Message) (rest : Bytes), m.kind = kind ∧ payload = m.payload ++ rest ∧
      (m.kind = .bitfield ∨ m.kind = .piece → rest = []) := by
  have triple (enough : 12 ≤ payload.length) : ∃ index start length rest,
      payload = BigEndian.encode32 index ++ BigEndian.encode32 start ++
        BigEndian.encode32 length ++ rest := by
    obtain ⟨index, rest, rfl, more⟩ := BigEndian.exists_encode32_append (n := 8) enough
    obtain ⟨start, rest, rfl, last⟩ := BigEndian.exists_encode32_append (n := 4) more
    obtain ⟨length, rest, rfl, -⟩ := BigEndian.exists_encode32_append (n := 0) last
    exact ⟨index, start, length, rest, by simp only [List.append_assoc]⟩
  cases kind with
  | «have» =>
    obtain ⟨i, rest, rfl, -⟩ := BigEndian.exists_encode32_append (n := 0) enough
    exact ⟨.have i, rest, rfl, rfl, by simp [Message.kind]⟩
  | bitfield => exact ⟨.bitfield payload, [], rfl, (List.append_nil _).symm, fun _ => rfl⟩
  | request =>
    obtain ⟨index, start, length, rest, rfl⟩ := triple enough
    exact ⟨.request index start length, rest, rfl, rfl, by simp [Message.kind]⟩
  | piece =>
    obtain ⟨index, rest, rfl, more⟩ := BigEndian.exists_encode32_append (n := 4) enough
    obtain ⟨start, rest, rfl, -⟩ := BigEndian.exists_encode32_append (n := 0) more
    refine ⟨.piece index start rest, [], rfl, ?_, fun _ => rfl⟩
    rw [List.append_nil, Message.payload, List.append_assoc]
  | cancel =>
    obtain ⟨index, start, length, rest, rfl⟩ := triple enough
    exact ⟨.cancel index start length, rest, rfl, rfl, by simp [Message.kind]⟩
  | port =>
    obtain ⟨listening, rest, rfl⟩ := BigEndian.exists_encode16_append enough
    exact ⟨.port listening, rest, rfl, rfl, by simp [Message.kind]⟩
  | keepAlive => exact ⟨.keepAlive, payload, rfl, rfl, by simp [Message.kind]⟩
  | choke => exact ⟨.choke, payload, rfl, rfl, by simp [Message.kind]⟩
  | unchoke => exact ⟨.unchoke, payload, rfl, rfl, by simp [Message.kind]⟩
  | interested => exact ⟨.interested, payload, rfl, rfl, by simp [Message.kind]⟩
  | notInterested => exact ⟨.notInterested, payload, rfl, rfl, by simp [Message.kind]⟩

theorem ofPayload_of_short (short : payload.length < kind.required) :
    ofPayload kind payload = .error (.tooShort kind kind.required payload.length) := by
  unfold ofPayload
  split
  all_goals first
    | exact absurd short (Nat.not_lt_zero _)
    | split
      · simp only [MessageKind.required, List.length_cons] at short
        omega
      · rfl

/-! ### What a body holds -/

/-- What a body is read as: a keep-alive if it is empty, else the message that its first octet tells
and its payload begins with, or the reason why there is none. -/
inductive Reads : Bytes → Except WireError Message → Prop
  | empty : Reads [] (.ok keepAlive)
  | message {m : Message} {octet : UInt8} {rest : Bytes} (tells : m.kind.octet? = some octet)
      (whole : m.kind = .bitfield ∨ m.kind = .piece → rest = []) :
      Reads (octet :: (m.payload ++ rest)) (.ok m)
  | invalid {octet : UInt8} {payload : Bytes} (large : 9 < octet) :
      Reads (octet :: payload) (.error (.invalidOctet octet))
  | short {kind : MessageKind} {octet : UInt8} {payload : Bytes} (tells : kind.octet? = some octet)
      (short : payload.length < kind.required) :
      Reads (octet :: payload) (.error (.tooShort kind kind.required payload.length))

theorem reads_parse (body : Bytes) : Reads body (parse body) := by
  match body with
  | [] => exact .empty
  | octet :: payload =>
    cases told : MessageKind.ofOctet? octet with
    | none =>
      rw [parse, told]
      exact .invalid (MessageKind.ofOctet?_eq_none_iff.1 told)
    | some kind =>
      have tells := MessageKind.octet?_of_ofOctet? told
      rw [parse, told]
      dsimp only
      by_cases short : payload.length < kind.required
      · rw [ofPayload_of_short short]
        exact .short tells short
      · obtain ⟨m, rest, rfl, rfl, whole⟩ := exists_payload_append (Nat.le_of_not_lt short)
        rw [m.ofPayload_payload_append whole]
        exact .message tells whole

theorem Reads.parse_eq {body : Bytes} {r : Except WireError Message} (reads : Reads body r) :
    parse body = r := by
  cases reads with
  | empty => rfl
  | message tells whole =>
    rw [parse, MessageKind.ofOctet?_of_octet? tells]
    exact ofPayload_payload_append _ whole
  | invalid large => rw [parse, MessageKind.ofOctet?_eq_none_iff.2 large]
  | short tells short =>
    rw [parse, MessageKind.ofOctet?_of_octet? tells]
    exact ofPayload_of_short short

theorem take_frame (m : Message) :
    m.frame.take 4 = BigEndian.encode32 (UInt32.ofNat m.length) :=
  List.take_left' (BigEndian.length_encode32 _)

theorem drop_frame (m : Message) : m.frame.drop 4 = m.body :=
  List.drop_left' (BigEndian.length_encode32 _)

/-- What is read as a message begins with the message's own body, and is no longer where the last
field takes all there is. -/
theorem exists_body_append_of_parse {body : Bytes} {m : Message} (read : parse body = .ok m) :
    ∃ rest, body = m.body ++ rest ∧
      (m.kind = .keepAlive ∨ m.kind = .bitfield ∨ m.kind = .piece → rest = []) := by
  have reads := reads_parse body
  rw [read] at reads
  cases reads with
  | empty => exact ⟨[], rfl, fun _ => rfl⟩
  | @message _ octet rest tells whole =>
    refine ⟨rest, by rw [Message.body, tells]; rfl, ?_⟩
    rintro (silent | last)
    · rw [silent] at tells
      cases tells
    · exact whole last

/-! ### Reading within a body -/

inductive Halt where
  | refused (e : WireError)
  | outside

/-- Looks at the octets of a body from its front on. The state is what has not been looked at. -/
abbrev Look := StateT Bytes (Except Halt)

namespace Look

def refuse {α : Type} (e : WireError) : Look α := fun _ => .error (.refused e)

def octet : Look UInt8
  | a :: left => .ok (a, left)
  | _ => .error .outside

def word16 : Look UInt16
  | a :: b :: left => .ok (BigEndian.decode16 a b, left)
  | _ => .error .outside

def word32 : Look UInt32
  | a :: b :: c :: d :: left => .ok (BigEndian.decode32 a b c d, left)
  | _ => .error .outside

def need (kind : MessageKind) (n : Nat) : Look Unit := fun left =>
  if left.length < n then .error (.refused (.tooShort kind n left.length)) else .ok ((), left)

def ofPayload : MessageKind → Look Message
  | .keepAlive => return .keepAlive
  | .choke => return .choke
  | .unchoke => return .unchoke
  | .interested => return .interested
  | .notInterested => return .notInterested
  | .have => do
    need .have 4
    return .have (← word32)
  | .bitfield => return .bitfield (← get)
  | .request => do
    need .request 12
    return .request (← word32) (← word32) (← word32)
  | .piece => do
    need .piece 8
    return .piece (← word32) (← word32) (← get)
  | .cancel => do
    need .cancel 12
    return .cancel (← word32) (← word32) (← word32)
  | .port => do
    need .port 2
    return .port (← word16)

def parse : Look Message := do
  if (← get).isEmpty then return .keepAlive
  else
    let first ← octet
    match MessageKind.ofOctet? first with
    | none => refuse (.invalidOctet first)
    | some kind => ofPayload kind

section

variable {α : Type} {n : Nat}

theorem need_bind_of_le (enough : n ≤ payload.length) (next : Look α) :
    (need kind n >>= fun _ => next) payload = next payload := by
  have passed : need kind n payload = .ok ((), payload) := if_neg (Nat.not_lt.2 enough)
  exact congrArg (Except.bind · fun p => next p.2) passed

theorem need_bind_of_lt (short : payload.length < n) (next : Look α) :
    (need kind n >>= fun _ => next) payload =
      .error (.refused (.tooShort kind n payload.length)) := by
  have refused : need kind n payload = _ := if_pos short
  exact congrArg (Except.bind · fun p => next p.2) refused

theorem word16_bind (w : UInt16) (next : UInt16 → Look α) :
    (word16 >>= next) (BigEndian.encode16 w ++ rest) = next w rest :=
  congrArg (next · rest) (BigEndian.decode16_encode16 w)

theorem word32_bind (w : UInt32) (next : UInt32 → Look α) :
    (word32 >>= next) (BigEndian.encode32 w ++ rest) = next w rest :=
  congrArg (next · rest) (BigEndian.decode32_encode32 w)

end

theorem ofPayload_of_short (short : payload.length < kind.required) :
    ofPayload kind payload = .error (.refused (.tooShort kind kind.required payload.length)) := by
  cases kind
  all_goals first
    | exact absurd short (Nat.not_lt_zero _)
    | exact need_bind_of_lt short _

theorem ofPayload_payload_append (m : Message)
    (whole : m.kind = .bitfield ∨ m.kind = .piece → rest = []) :
    ∃ left, ofPayload m.kind (m.payload ++ rest) = .ok (m, left) := by
  have enough : m.kind.required ≤ (m.payload ++ rest).length := by
    rw [List.length_append]
    exact Nat.le_trans m.required_le_length_payload (Nat.le_add_right _ _)
  cases m with
  | «have» i =>
    refine ⟨rest, (need_bind_of_le enough _).trans ?_⟩
    exact word32_bind i _
  | bitfield bits =>
    rw [whole (.inl rfl), List.append_nil]
    exact ⟨bits, rfl⟩
  | piece index start block =>
    rw [whole (.inr rfl), List.append_nil] at enough ⊢
    refine ⟨block, (need_bind_of_le enough _).trans ?_⟩
    simp only [payload, List.append_assoc, word32_bind]
    rfl
  | request index start length | cancel index start length =>
    refine ⟨rest, (need_bind_of_le enough _).trans ?_⟩
    simp only [payload, List.append_assoc, word32_bind]
    rfl
  | port listening =>
    refine ⟨rest, (need_bind_of_le enough _).trans ?_⟩
    exact word16_bind listening _
  | _ => exact ⟨rest, rfl⟩

theorem parse_cons {octet : UInt8} (tells : kind.octet? = some octet) :
    parse (octet :: payload) = ofPayload kind payload := by
  change (match MessageKind.ofOctet? octet with
    | none => refuse (.invalidOctet octet)
    | some kind => ofPayload kind) payload = _
  rw [MessageKind.ofOctet?_of_octet? tells]

theorem parse_of_invalid {octet : UInt8} (large : 9 < octet) :
    parse (octet :: payload) = .error (.refused (.invalidOctet octet)) := by
  change (match MessageKind.ofOctet? octet with
    | none => refuse (.invalidOctet octet)
    | some kind => ofPayload kind) payload = _
  rw [MessageKind.ofOctet?_eq_none_iff.2 large]
  rfl

/-- A body is read without a look at an octet that is not there. -/
theorem run'_parse (body : Bytes) : parse.run' body = (Message.parse body).mapError .refused := by
  have reads := reads_parse body
  generalize Message.parse body = r at reads
  change Prod.fst <$> parse body = _
  cases reads with
  | empty => rfl
  | message tells whole =>
    obtain ⟨left, seen⟩ := ofPayload_payload_append _ whole
    rw [parse_cons tells, seen]
    rfl
  | invalid large =>
    rw [parse_of_invalid large]
    rfl
  | short tells short =>
    rw [parse_cons tells, ofPayload_of_short short]
    rfl

end Look

/-! ### Both directions -/

/-- The messages and their octets agree in both directions. The frame of a message whose length can
be told is four octets longer than its body, begins with that length, most significant octet first,
and is read as the message. What is read as a message begins with what is written of it behind the
length, and is exactly that for a keep-alive, a bitfield and a block. A body is refused for its
first octet if that is above nine, and as too short if it tells a kind of message that needs more
octets than there are behind it; no octet is ever looked at that the body does not have. -/
theorem codec_exact :
    (∀ m : Message, m.body.length < 2 ^ 32 →
      m.frame.length = 4 + m.length ∧
      (∃ a b c d : UInt8, m.frame.take 4 = [a, b, c, d] ∧
        a.toNat * 2 ^ 24 + b.toNat * 2 ^ 16 + c.toNat * 2 ^ 8 + d.toNat = m.length) ∧
      ofFrame m.frame = .ok m) ∧
    ∀ body : Bytes,
      (∀ m, parse body = .ok m → m.frame.drop 4 <+: body ∧
        (m.kind = .keepAlive ∨ m.kind = .bitfield ∨ m.kind = .piece → m.frame.drop 4 = body)) ∧
      (∀ octet, parse body = .error (.invalidOctet octet) ↔
        ∃ payload, body = octet :: payload ∧ 9 < octet) ∧
      (∀ kind expected actual, parse body = .error (.tooShort kind expected actual) ↔
        ∃ octet payload, body = octet :: payload ∧ kind.octet? = some octet ∧
          expected = kind.required ∧ actual = payload.length ∧ actual < expected) ∧
      Look.parse.run' body = (parse body).mapError .refused := by
  constructor
  · intro m fits
    rw [m.length_body] at fits
    obtain ⟨a, b, c, d, octets, word⟩ := BigEndian.exists_encode32 (UInt32.ofNat m.length)
    refine ⟨m.length_frame, ⟨a, b, c, d, m.take_frame.trans octets, ?_⟩, ofFrame_frame fits⟩
    have told := congrArg UInt32.toNat word
    rw [BigEndian.toNat_decode32, UInt32.toNat_ofNat_of_lt' fits] at told
    exact told
  · intro body
    refine ⟨fun m read => ?_, fun octet => ⟨fun failed => ?_, ?_⟩,
      fun kind expected actual => ⟨fun failed => ?_, ?_⟩, Look.run'_parse body⟩
    · obtain ⟨rest, rfl, whole⟩ := exists_body_append_of_parse read
      rw [m.drop_frame]
      exact ⟨List.prefix_append _ _, fun kind => by rw [whole kind, List.append_nil]⟩
    · have reads := reads_parse body
      rw [failed] at reads
      cases reads with
      | invalid large => exact ⟨_, rfl, large⟩
    · rintro ⟨payload, rfl, large⟩
      exact (Reads.invalid large).parse_eq
    · have reads := reads_parse body
      rw [failed] at reads
      cases reads with
      | short tells short => exact ⟨_, _, rfl, tells, rfl, rfl, short⟩
    · rintro ⟨octet, payload, rfl, tells, rfl, rfl, short⟩
      exact (Reads.short tells short).parse_eq

theorem codec_exact_sample :
    ofFrame (piece 0 16384 [1, 2]).frame = .ok (piece 0 16384 [1, 2]) ∧
    parse [4, 0, 0, 0, 7, 9] = .ok (.have 7) ∧
    (Message.have 7).frame.drop 4 <+: [4, 0, 0, 0, 7, 9] := by
  have read : parse [4, 0, 0, 0, 7, 9] = .ok (.have 7) := rfl
  obtain ⟨written, held⟩ := codec_exact
  exact ⟨(written (piece 0 16384 [1, 2]) (by decide)).2.2, read, ((held _).1 _ read).1⟩

end Message

/-! ### Streams -/

namespace Reader

variable {σ : Type}

/-- Reads messages one after the other, so many times, and goes on behind one that is refused. -/
def attempts (read : Reader σ) : Nat → σ → List (Except MessageFault Message) × σ
  | 0, s => ([], s)
  | n + 1, s =>
    let (first, s) := message read s
    let (more, s) := attempts read n s
    (first :: more, s)

def framed (bodies : List Bytes) : Bytes :=
  bodies.flatMap fun body => BigEndian.encode32 (UInt32.ofNat body.length) ++ body

variable {read : Reader σ} {fault : ReadFault} {holds : σ → Bytes → Prop}

theorem Serves.attempts_framed (serves : Serves read fault holds) {bodies : List Bytes}
    (accepted : ∀ body ∈ bodies, body.length ≤ maxFrameLength) {s : σ} {rest : Bytes}
    (ahead : holds s (framed bodies ++ rest)) :
    ∃ s', attempts read bodies.length s =
      (bodies.map fun body => (Message.parse body).mapError .wire, s') ∧ holds s' rest := by
  induction bodies generalizing s with
  | nil => exact ⟨s, rfl, ahead⟩
  | cons body bodies ih =>
    -- Whatever the first body gives, the others stand behind it.
    rw [framed, List.flatMap_cons, List.append_assoc, List.append_assoc] at ahead
    obtain ⟨t, first, behind⟩ :=
      serves.message_of_body (accepted body List.mem_cons_self) ahead
    obtain ⟨s', more, left⟩ :=
      ih (fun body member => accepted body (List.mem_cons_of_mem _ member)) behind
    exact ⟨s', by rw [List.length_cons, attempts, first]; simp only [more, List.map_cons], left⟩

/-- On a stream a body of accepted length gives what it gives alone and as a frame that is held in
full, a message or the reason why it is refused, and in both cases exactly its frame is taken off
the stream; so bodies are read one after the other, whichever of them are refused. Where a length is
told that is too large, that is the reason, and the four octets that tell it are taken, whatever is
behind them. -/
theorem in_frame (serves : Serves read fault holds) :
    (∀ (s : σ) (body rest : Bytes), body.length ≤ maxFrameLength →
      holds s (BigEndian.encode32 (UInt32.ofNat body.length) ++ body ++ rest) →
      (∃ s', message read s = ((Message.parse body).mapError .wire, s') ∧ holds s' rest) ∧
      Message.ofFrame (BigEndian.encode32 (UInt32.ofNat body.length) ++ body) =
        Message.parse body) ∧
    (∀ (s : σ) (bodies : List Bytes) (rest : Bytes),
      (∀ body ∈ bodies, body.length ≤ maxFrameLength) → holds s (framed bodies ++ rest) →
      ∃ s', attempts read bodies.length s =
        (bodies.map fun body => (Message.parse body).mapError .wire, s') ∧ holds s' rest) ∧
    ∀ (s : σ) (a b c d : UInt8) (rest : Bytes),
      (BigEndian.decode32 a b c d).toNat > maxFrameLength → holds s ([a, b, c, d] ++ rest) →
      ∃ s', message read s =
        (.error (.wire (.tooLarge (BigEndian.decode32 a b c d).toNat)), s') ∧ holds s' rest := by
  refine ⟨fun s body rest accepted ahead => ⟨?_, ?_⟩,
    fun _ _ _ accepted ahead => serves.attempts_framed accepted ahead,
    fun _ _ _ _ _ _ large ahead => serves.message_of_large large ahead⟩
  · rw [List.append_assoc] at ahead
    exact serves.message_of_body accepted ahead
  · exact Message.ofFrame_of_body (Nat.lt_of_le_of_lt accepted (by decide))

theorem in_frame_sample :
    attempts ofBytes 2 [0, 0, 0, 1, 10, 0, 0, 0, 1, 0, 0, 64, 0, 1, 7] =
      ([.error (.wire (.invalidOctet 10)), .ok .choke], [0, 64, 0, 1, 7]) ∧
    message ofBytes [0, 64, 0, 1, 7] = (.error (.wire (.tooLarge 4194305)), [7]) ∧
    message ofBytes [0, 0, 0, 1, 10, 7] = (.error (.wire (.invalidOctet 10)), [7]) := by
  obtain ⟨one, many, large⟩ := in_frame serves_ofBytes
  obtain ⟨⟨_, single, rfl⟩, -⟩ := one _ [10] [7] (by decide) rfl
  obtain ⟨_, both, rfl⟩ := many _ [[10], [0]] [0, 64, 0, 1, 7] (by decide) rfl
  obtain ⟨_, refused, rfl⟩ := large _ 0 64 0 1 [7] (by decide) rfl
  exact ⟨both, refused, single⟩

end Reader

end Swarm
