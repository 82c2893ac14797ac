import Swarm.Proofs.Wire.Transcript

/-!
Handshakes and their octets, in both directions. What is written of a handshake is read as the same
handshake, whatever follows it. What is read as a handshake begins with what is written of it, and
octets are refused for two reasons only: there are too few of them, or they do not begin with the
name of the protocol (`Handshake.wire_form_exact`).
-/

namespace Swarm

theorem Bytes.exists_field?_of_le {n : Nat} {b : Bytes} (enough : n ≤ b.length) :
    ∃ f : Fixed n, field? n b = some (f, b.drop n) :=
  ⟨⟨b.take n, List.length_take_of_le enough⟩,
    field?_eq_some_iff.2 (List.take_append_drop n b).symm⟩

theorem Bytes.take_drop_append {front field rest : Bytes} {place n : Nat}
    (before : front.length = place) (width : field.length = n) :
    ((front ++ (field ++ rest)).drop place).take n = field := by
  rw [List.drop_left' before, List.take_left' width]

namespace Handshake

variable {data : Bytes}

theorem header_eq : header = 0x13 :: Bytes.ofText "BitTorrent protocol" := by
  decide +kernel

/-! ### Where the fields stand -/

section Layout

variable (h : Handshake) (rest : Bytes)

theorem take_header_encode : (h.encode ++ rest).take 20 = header := by
  rw [encode, List.append_assoc]
  exact List.take_left' rfl

theorem fields_encode :
    ((h.encode ++ rest).drop 20).take 8 = h.reserved.1 ∧
    ((h.encode ++ rest).drop 28).take 20 = h.infoHash.1 ∧
    ((h.encode ++ rest).drop 48).take 20 = h.peerId.1 := by
  have second : (header ++ h.reserved.1).length = 28 := by
    rw [List.length_append, h.reserved.2]
    rfl
  have third : ((header ++ h.reserved.1) ++ h.infoHash.1).length = 48 := by
    rw [List.length_append, second, h.infoHash.2]
  have split : h.encode ++ rest =
      ((header ++ h.reserved.1) ++ h.infoHash.1) ++ (h.peerId.1 ++ rest) := by
    simp only [encode, List.append_assoc]
  refine ⟨?_, ?_, ?_⟩
  · rw [split, List.append_assoc, List.append_assoc]
    exact Bytes.take_drop_append rfl h.reserved.2
  · rw [split, List.append_assoc]
    exact Bytes.take_drop_append second h.infoHash.2
  · rw [split]
    exact Bytes.take_drop_append third h.peerId.2

end Layout

/-! ### What octets are read as -/

theorem exists_fields?_iff : (∃ h, fields? data = some h) ↔ 48 ≤ data.length := by
  constructor
  · intro found
    obtain ⟨h, found⟩ := found
    obtain ⟨rest, rfl⟩ := fields?_eq_some_iff.1 found
    simp only [List.length_append, h.reserved.2, h.infoHash.2, h.peerId.2]
    omega
  · intro enough
    obtain ⟨reserved, first⟩ := Bytes.exists_field?_of_le (n := 8) (b := data) (by omega)
    obtain ⟨infoHash, second⟩ := Bytes.exists_field?_of_le (n := 20) (b := data.drop 8)
      (by rw [List.length_drop]; omega)
    obtain ⟨peerId, third⟩ := Bytes.exists_field?_of_le (n := 20) (b := (data.drop 8).drop 20)
      (by rw [List.length_drop, List.length_drop]; omega)
    refine ⟨⟨reserved, infoHash, peerId⟩, ?_⟩
    simp only [fields?, first, second, third, Option.bind_eq_bind, Option.bind_some,
      Option.pure_def]

inductive Reads : Bytes → Except HandshakeError Handshake → Prop
  | greeting (h : Handshake) (rest : Bytes) : Reads (h.encode ++ rest) (.ok h)
  | short {data : Bytes} (cut : data.length < size) : Reads data (.error .noResponse)
  | other {octet : UInt8} {rest : Bytes} (enough : size ≤ (octet :: rest).length)
      (differs : (octet :: rest).take 20 ≠ header) :
      Reads (octet :: rest) (.error (.otherProtocol octet))

theorem reads_decode (data : Bytes) : Reads data (decode data) := by
  match data with
  | [] => exact .short (by decide)
  | octet :: rest =>
    have behind : 48 ≤ ((octet :: rest).drop header.length).length ↔
        size ≤ (octet :: rest).length := by
      rw [List.length_drop]
      unfold size header
      simp only [List.length_cons, List.length_nil]
      omega
    rw [← exists_fields?_iff] at behind
    cases found : fields? ((octet :: rest).drop header.length) with
    | none =>
      have cut : ¬ size ≤ (octet :: rest).length := by
        intro enough
        obtain ⟨h, some⟩ := behind.2 enough
        cases found.symm.trans some
      rw [decode, found]
      exact .short (Nat.lt_of_not_le cut)
    | some h =>
      by_cases named : (octet :: rest).take header.length = header
      · have read : decode (octet :: rest) = .ok h := by
          simp only [decode, found, if_pos named]
        obtain ⟨more, same⟩ := decode_eq_ok_iff.1 read
        rw [read, same]
        exact .greeting h more
      · simp only [decode, found, if_neg named]
        exact .other (behind.1 ⟨h, found⟩) named

theorem decode_encode_append (h : Handshake) (rest : Bytes) : decode (h.encode ++ rest) = .ok h :=
  decode_eq_ok_iff.2 ⟨rest, rfl⟩

theorem size_le_encode_append (h : Handshake) (rest : Bytes) :
    size ≤ (h.encode ++ rest).length := by
  rw [List.length_append, h.length_encode]
  exact Nat.le_add_right _ _

theorem Reads.reasons {answer : Except HandshakeError Handshake} (reads : Reads data answer) :
    (answer = .error .noResponse ↔ data.length < size) ∧
    (∀ octet, answer = .error (.otherProtocol octet) ↔
      size ≤ data.length ∧ data.head? = some octet ∧ data.take 20 ≠ header) ∧
    ((∃ h, answer = .ok h) ↔ size ≤ data.length ∧ data.take 20 = header) := by
  cases reads with
  | greeting h rest =>
    have enough := size_le_encode_append h rest
    have named := h.take_header_encode rest
    refine ⟨iff_of_false nofun (Nat.not_lt_of_le enough), fun octet => iff_of_false nofun ?_,
      iff_of_true ⟨h, rfl⟩ ⟨enough, named⟩⟩
    exact fun all => all.2.2 named
  | short cut =>
    refine ⟨iff_of_true rfl cut, fun octet => iff_of_false nofun ?_, iff_of_false nofun ?_⟩
    · exact fun all => Nat.not_lt_of_le all.1 cut
    · exact fun both => Nat.not_lt_of_le both.1 cut
  | other enough differs =>
    refine ⟨iff_of_false nofun (Nat.not_lt_of_le enough), ?_, iff_of_false nofun ?_⟩
    · intro octet
      simp only [Except.error.injEq, HandshakeError.otherProtocol.injEq, List.head?_cons,
        Option.some.injEq, enough, differs, ne_eq, not_false_eq_true, true_and, and_true]
    · exact fun both => differs both.2

theorem decode_take (data : Bytes) : decode (data.take size) = decode data := by
  by_cases cut : data.length < size
  · rw [List.take_of_length_le (Nat.le_of_lt cut)]
  have reads := reads_decode data
  cases answer : decode data with
  | ok h =>
    rw [answer] at reads
    cases reads with
    | greeting h rest =>
      rw [List.take_left' h.length_encode, ← List.append_nil h.encode]
      exact decode_encode_append h []
  | error e =>
    rw [answer] at reads
    cases reads with
    | short cut' => exact absurd cut' cut
    | @other octet rest enough differs =>
      refine ((reads_decode _).reasons.2.1 octet).2 ⟨?_, rfl, ?_⟩
      · exact Nat.le_of_eq (List.length_take_of_le enough).symm
      · rwa [List.take_take]

end Handshake

/-- From a stream a handshake is read as from the same octets in memory, and nothing is taken from
behind it. -/
theorem Reader.handshake_ofBytes (data : Bytes) : handshake ofBytes data =
    ((Handshake.decode data).mapError .failed, data.drop Handshake.size) := by
  by_cases cut : data.length < Handshake.size
  · have answer := (Handshake.reads_decode data).reasons.1.2 cut
    rw [handshake_of_short cut, answer, List.drop_of_length_le (Nat.le_of_lt cut)]
    rfl
  · have full : (data.take Handshake.size).length = Handshake.size :=
      List.length_take_of_le (Nat.le_of_not_lt cut)
    have split : data = data.take Handshake.size ++ data.drop Handshake.size :=
      (List.take_append_drop _ _).symm
    obtain ⟨_, read, rfl⟩ := serves_ofBytes.enough split
    rw [full] at read
    simp only [handshake, read, Handshake.decode_take]

/-- Handshakes and the octets that begin with one stand for each other.

What is written of a handshake is 68 octets, with the name of the protocol in front and each field
in its place, and is read as this handshake whatever follows. So octets of handshakes that differ in
any field are different. Octets are refused as no answer if and only if there are fewer than 68 of
them, and as those of another protocol, told by the first of them, if and only if there are enough
and they do not begin with the name of this one. All others are read as the handshake that their
first 68 are written from. It names the wanted content if and only if octets 28 to 48 are its
digest. A stream is read in the same way. -/
theorem Handshake.wire_form_exact :
    (∀ h : Handshake, h.encode.length = 68 ∧
      h.encode.take 20 = 0x13 :: Bytes.ofText "BitTorrent protocol" ∧
      ∀ rest, decode (h.encode ++ rest) = .ok h) ∧
    (∀ h h' : Handshake, h ≠ h' → ∀ rest rest', h.encode ++ rest ≠ h'.encode ++ rest') ∧
    ∀ data : Bytes,
      (decode data = .error .noResponse ↔ data.length < 68) ∧
      (∀ octet, decode data = .error (.otherProtocol octet) ↔ 68 ≤ data.length ∧
        data.head? = some octet ∧
        data.take 20 ≠ 0x13 :: Bytes.ofText "BitTorrent protocol") ∧
      ((∃ h, decode data = .ok h) ↔ 68 ≤ data.length ∧
        data.take 20 = 0x13 :: Bytes.ofText "BitTorrent protocol") ∧
      (∀ h, decode data = .ok h → h.encode = data.take 68 ∧
        h.reserved.1 = (data.drop 20).take 8 ∧ h.infoHash.1 = (data.drop 28).take 20 ∧
        h.peerId.1 = (data.drop 48).take 20 ∧
        ∀ expected, h.check expected = .ok () ↔ (data.drop 28).take 20 = expected.1) ∧
      Reader.handshake Reader.ofBytes data =
        ((decode data).mapError .failed, data.drop 68) := by
  rw [← header_eq]
  refine ⟨?_, ?_, ?_⟩
  · intro h
    have named := h.take_header_encode []
    rw [List.append_nil] at named
    exact ⟨h.length_encode, named, h.decode_encode_append⟩
  · intro h h' differ rest rest' same
    exact differ (encode_append_inj same).1
  · intro data
    obtain ⟨short, other, named⟩ := (reads_decode data).reasons
    refine ⟨short, other, named, ?_, Reader.handshake_ofBytes data⟩
    intro h read
    obtain ⟨rest, rfl⟩ := decode_eq_ok_iff.1 read
    obtain ⟨reserved, infoHash, peerId⟩ := h.fields_encode rest
    refine ⟨(List.take_left' h.length_encode).symm, reserved.symm, infoHash.symm, peerId.symm, ?_⟩
    intro expected
    rw [infoHash, check_eq_ok_iff]
    exact Subtype.ext_iff

theorem Handshake.wire_form_exact_sample :
    let h : Handshake := ⟨Fixed.fill 8 1, Fixed.fill 20 17, Fixed.fill 20 2⟩
    let data := h.encode ++ [7, 7]
    decode data = .ok h ∧ h.encode = data.take 68 ∧ h.peerId.1 = (data.drop 48).take 20 ∧
      h.check (Fixed.fill 20 17) = .ok () ∧ h.check (Fixed.fill 20 2) ≠ .ok () := by
  intro h data
  obtain ⟨written, -, octets⟩ := Handshake.wire_form_exact
  have read : decode data = .ok h := (written h).2.2 [7, 7]
  obtain ⟨same, -, -, peerId, names⟩ := (octets data).2.2.2.1 h read
  refine ⟨read, same, peerId, (names _).2 (by decide), fun accepted => ?_⟩
  exact absurd ((names _).1 accepted) (by decide)

end Swarm
