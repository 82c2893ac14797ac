import Mathlib.Logic.Function.Iterate
import Swarm.Proofs.Bencode.Canonical
import Swarm.Proofs.Bencode.Reading

/-!
Writing and reading. A value that is written and read again comes back, whatever follows it, unless
it is nested too deep (`decoding_undoes_encoding`); what was read and is written again has the same
octets exactly if all keys ascended in the input (`encoding_undoes_decoding`).
-/

namespace Swarm.Bencode

theorem Value.fits_derivation {v : Value} (wf : v.WellFormed) : v.derivation.Fits := by
  induction v with
  | integer n => exact throughout_of_children_eq_nil rfl trivial
  | bytes b => exact throughout_of_children_eq_nil rfl (throughout_iff.1 wf).1
  | list items ih =>
    rw [derivation_list, Derivation.fits_list, List.forall_mem_map]
    exact fun v member => ih v member (wellFormed_list.1 wf v member)
  | dict entries ih =>
    obtain ⟨-, below⟩ := wellFormed_dict.1 wf
    rw [derivation_dict, Derivation.fits_dict, List.forall_mem_map]
    exact fun e member => ⟨(below e member).1, ih e member (below e member).2⟩

theorem Derivation.wellFormed_value {d : Derivation} (fits : d.Fits) : d.value.WellFormed := by
  induction d with
  | integer n => exact throughout_of_children_eq_nil rfl trivial
  | string s => exact throughout_of_children_eq_nil rfl (throughout_iff.1 fits).1
  | list items ih =>
    rw [value_list, Value.wellFormed_list, List.forall_mem_map]
    exact fun d member => ih d member (fits_list.1 fits d member)
  | dict fields ih =>
    rw [value_dict, Value.wellFormed_dict]
    refine ⟨Entries.ascending_ofList _, fun e member => ?_⟩
    obtain ⟨f, direct, rfl⟩ := exists_field_of_mem member
    exact ⟨(fits_dict.1 fits f direct).1, ih f direct (fits_dict.1 fits f direct).2⟩

theorem head?_decodeAll_of_ok {data : Bytes} {v : Value} {c : Cursor}
    (read : (Cursor.start data).next = .ok (v, c)) :
    (decodeAll data).head? = some (.ok v, c) := by
  rw [decodeAll, Cursor.nextAll, read]
  rfl

theorem head?_decodeAll_of_error {data : Bytes} {e : DecodeError}
    (failed : (Cursor.start data).next = .error e) :
    (decodeAll data).head? = some (.error e, Cursor.start data) := by
  rw [decodeAll, Cursor.nextAll, failed]
  rfl

namespace Value

variable {v : Value}

theorem spans_encode (v : Value) (s : Bytes) :
    (Cursor.start (v.encode ++ s)).Spans v.derivation.text ⟨v.encode.length, s⟩ := by
  rw [text_derivation]
  exact ⟨rfl, (Nat.zero_add _).symm⟩

theorem next_encode (wf : v.WellFormed) (within : Within children (maxDepth + 1) v) (s : Bytes) :
    (Cursor.start (v.encode ++ s)).next = .ok (v, ⟨v.encode.length, s⟩) :=
  Cursor.next_eq_ok_iff.2 ⟨v.derivation, fits_derivation wf, within_derivation.2 within,
    spans_encode v s, value_derivation wf⟩

theorem next_encode_of_not_within (wf : v.WellFormed)
    (deep : ¬ Within children (maxDepth + 1) v) (s : Bytes) :
    (Cursor.start (v.encode ++ s)).next = .error (.tooDeep maxDepth) :=
  Cursor.next_of_not_within (fits_derivation wf) (mt within_derivation.1 deep) (spans_encode v s)

theorem decode_encode_iff (wf : v.WellFormed) :
    decode v.encode = .ok v ↔ Within children (maxDepth + 1) v := by
  constructor
  · intro read
    obtain ⟨d, -, within, text, -⟩ := decode_eq_ok_iff.1 read
    rw [← text_derivation] at text
    exact within_derivation.1 (Derivation.eq_of_text_eq text ▸ within)
  · intro within
    exact decode_eq_ok_iff.2 ⟨v.derivation, fits_derivation wf, within_derivation.2 within,
      text_derivation v, value_derivation wf⟩

theorem eq_of_encode_eq {w : Value} (wf : v.WellFormed) (wf' : w.WellFormed)
    (same : v.encode = w.encode) : v = w := by
  rw [← text_derivation, ← text_derivation] at same
  rw [← value_derivation wf, ← value_derivation wf', Derivation.eq_of_text_eq same]

end Value

/-- Reading gives back what was written, up to where it was written, whatever follows; if something
in the value lies more than 64 levels down, nothing is read and that is the reason given. No two
values are written alike. -/
theorem decoding_undoes_encoding (v : Value) (wf : v.WellFormed) (s : Bytes) :
    ((∀ depth part, Part Value.children v depth part → depth ≤ maxDepth) →
      (decodeAll (v.encode ++ s)).head? = some (.ok v, ⟨v.encode.length, s⟩)) ∧
    ((∃ depth part, Part Value.children v depth part ∧ maxDepth < depth) →
      (decodeAll (v.encode ++ s)).head? =
        some (.error (.tooDeep maxDepth), ⟨0, v.encode ++ s⟩)) ∧
    (decode v.encode = .ok v ↔
      ∀ depth part, Part Value.children v depth part → depth ≤ maxDepth) ∧
    ∀ w : Value, w.WellFormed → v.encode = w.encode → v = w := by
  rw [← within_succ_iff_le, Value.decode_encode_iff wf]
  refine ⟨fun within => ?_, ?_, Iff.rfl, fun w wf' same => Value.eq_of_encode_eq wf wf' same⟩
  · exact head?_decodeAll_of_ok (Value.next_encode wf within s)
  · rintro ⟨depth, part, inside, deep⟩
    have beyond : ¬ Within Value.children (maxDepth + 1) v := fun within =>
      Nat.not_lt.2 (within_succ_iff_le.1 within depth part inside) deep
    exact head?_decodeAll_of_error (Value.next_encode_of_not_within wf beyond s)

theorem part_iterate_list (n : Nat) :
    Part Value.children ((fun v => .list [v])^[n] (.list [])) n (.list []) := by
  induction n with
  | zero => exact .root _
  | succ n ih =>
    rw [Function.iterate_succ_apply']
    exact .inner (List.mem_singleton_self _) ih

theorem wellFormed_iterate_list (n : Nat) :
    Value.WellFormed ((fun v => .list [v])^[n] (.list [])) := by
  induction n with
  | zero => exact throughout_of_children_eq_nil rfl trivial
  | succ n ih =>
    rw [Function.iterate_succ_apply', Value.wellFormed_list]
    exact List.forall_mem_singleton.2 ih

theorem decoding_undoes_encoding_sample :
    (decodeAll [100, 49, 58, 97, 105, 45, 55, 101, 49, 58, 98, 108, 48, 58, 101, 101, 120]).head? =
      some (.ok (.dict [([97], .integer (-7)), ([98], .list [.bytes []])]), ⟨16, [120]⟩) ∧
    (decodeAll (((fun v => Value.list [v])^[65] (.list [])).encode ++ [])).head? =
      some (.error (.tooDeep 64),
        ⟨0, ((fun v => Value.list [v])^[65] (.list [])).encode ++ []⟩) := by
  constructor
  · have empty : (Value.bytes []).WellFormed :=
      throughout_of_children_eq_nil rfl (show 0 < UInt64.size by decide)
    have inner : (Value.list [.bytes []]).WellFormed :=
      Value.wellFormed_list.2 (List.forall_mem_singleton.2 empty)
    have wf : (Value.dict [([97], .integer (-7)), ([98], .list [.bytes []])]).WellFormed := by
      refine Value.wellFormed_dict.2 ⟨by decide, List.forall_mem_cons.2 ⟨?_, ?_⟩⟩
      · exact ⟨by decide, throughout_of_children_eq_nil rfl trivial⟩
      · exact List.forall_mem_singleton.2 ⟨by decide, inner⟩
    have seven : Decimal.signedNumeral (-7) = [45, 55] := by
      show 45 :: Decimal.numeral 7 = _
      rw [Decimal.numeral_of_lt (by decide)]
      rfl
    have written : (Value.dict [([97], .integer (-7)), ([98], .list [.bytes []])]).encode =
        [100, 49, 58, 97, 105, 45, 55, 101, 49, 58, 98, 108, 48, 58, 101, 101] := by
      simp [Value.encode, encodeEntries, encodeItems, encodeBytes, seven, Decimal.numeral_of_lt,
        Decimal.digit]
    have shallow := (decoding_undoes_encoding _ wf [120]).1
    rw [written] at shallow
    refine shallow (within_succ_iff_le.1 (within_succ_iff.2 (List.forall_mem_cons.2 ⟨?_, ?_⟩)))
    · exact within_of_children_eq_nil rfl
    · exact List.forall_mem_singleton.2 (within_succ_iff.2
        (List.forall_mem_singleton.2 (within_of_children_eq_nil rfl)))
  · exact (decoding_undoes_encoding _ (wellFormed_iterate_list 65) []).2.1
      ⟨65, .list [], part_iterate_list 65, by decide⟩

/-- An input that was decoded has one derivation. Writing the value gives the input exactly if in
all dictionaries of that derivation the keys ascend; in any case it gives something no longer that
is decoded to the same value. -/
theorem encoding_undoes_decoding {data : Bytes} {v : Value} (read : decode data = .ok v) :
    ∃ d : Derivation, d.text = data ∧ (∀ e : Derivation, e.text = data → e = d) ∧
      (v.encode = data ↔ ∀ depth fields, Part Derivation.children d depth (.dict fields) →
        Ascending (fields.map fun f => f.1.octets)) ∧
      decode v.encode = .ok v ∧ v.encode.length ≤ data.length := by
  obtain ⟨d, fits, within, rfl, rfl⟩ := decode_eq_ok_iff.1 read
  have wf := d.wellFormed_value fits
  refine ⟨d, rfl, fun e same => Derivation.eq_of_text_eq same, ?_, ?_, d.length_encode_value_le⟩
  · rw [Derivation.encode_value_eq_text_iff wf, Derivation.canonical_iff]
  · exact (Value.decode_encode_iff wf).2 (Derivation.within_value within)

theorem encoding_undoes_decoding_sample :
    decode [100, 49, 58, 98, 48, 58, 49, 58, 97, 108, 101, 101] =
      .ok (.dict [([97], .list []), ([98], .bytes [])]) ∧
    (Value.dict [([97], .list []), ([98], .bytes [])]).encode ≠
      [100, 49, 58, 98, 48, 58, 49, 58, 97, 108, 101, 101] ∧
    decode (Value.dict [([97], .list []), ([98], .bytes [])]).encode =
      .ok (.dict [([97], .list []), ([98], .bytes [])]) := by
  have read : decode [100, 49, 58, 98, 48, 58, 49, 58, 97, 108, 101, 101] =
      .ok (.dict [([97], .list []), ([98], .bytes [])]) := rfl
  obtain ⟨d, -, only, canonical, back, -⟩ := encoding_undoes_decoding read
  have one : Decimal.IsNumeral [49] := .positive ⟨by decide, List.forall_mem_nil _⟩
  have whole := only (.dict [(⟨[49], [98], one, by decide⟩, .string ⟨[48], [], .zero, by decide⟩),
    (⟨[49], [97], one, by decide⟩, .list [])]) rfl
  subst whole
  refine ⟨read, fun same => ?_, back⟩
  exact absurd (canonical.1 same 0 _ (.root _)) (show ¬ Ascending [[98], [97]] by decide)

end Swarm.Bencode
