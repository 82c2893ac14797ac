import Swarm.Proofs.Bencode.Canonical
import Swarm.Proofs.Bencode.RawValue
import Swarm.Torrent.Descriptor

/-!
What the naming digest of a descriptor is taken over. The content comes from the decoded `info`
dictionary, and the digest from the octets of the descriptor; these are the octets that spell this
very dictionary, whatever order its keys have and however often `info` itself stands there
(`infoHash_names_content`).
-/

namespace Swarm

open Bencode (Value Derivation Part Ascending LastField decode decode_eq_ok_iff findRaw_of_decode)

theorem bind_eq_ok_iff {ε α β : Type} {x : Except ε α} {f : α → Except ε β} {b : β} :
    (x >>= f) = .ok b ↔ ∃ a, x = .ok a ∧ f a = .ok b := by
  cases x with
  | error e => exact iff_of_false nofun fun ⟨_, wrong, _⟩ => nomatch wrong
  | ok a => exact ⟨fun read => ⟨a, rfl, read⟩, by rintro ⟨_, same, read⟩; cases same; exact read⟩

theorem mapError_eq_ok_iff {ε ε' α : Type} {x : Except ε α} {f : ε → ε'} {a : α} :
    x.mapError f = .ok a ↔ x = .ok a := by
  cases x with
  | error e => exact iff_of_false nofun nofun
  | ok b => exact ⟨fun same => by cases same; rfl, fun same => by cases same; rfl⟩

namespace Descriptor

variable {data : Bytes} {root info : Value} {key : DescriptorKey}

theorem entry_eq_ok_iff {v : Value} :
    entry root key = .ok v ↔ root.get? (Bytes.ofText key.text) = some v := by
  unfold entry
  split
  next absent => simp [absent]
  next found => simp [found]

theorem parse_eq_ok_iff {t : Descriptor} : parse data = .ok t ↔
    ∃ root info raw, decode data = .ok root ∧
      entryAs root .announce .text Value.text? = .ok t.announce ∧ entry root .info = .ok info ∧
      info.entries?.isSome ∧ contentOf info = .ok t.content ∧ rawInfo data = .ok raw ∧
      t.infoHash = sha1 raw := by
  simp only [parse, bind_eq_ok_iff, mapError_eq_ok_iff]
  constructor
  · rintro ⟨root, whole, announce, named, info, found, read⟩
    split at read
    next => cases read
    next dict =>
      obtain ⟨content, described, raw, spelled, same⟩ := by
        simpa only [bind_eq_ok_iff] using read
      cases same
      refine ⟨root, info, raw, whole, named, found, ?_, described, spelled, rfl⟩
      exact Option.isSome_iff_ne_none.2 (mt Option.isNone_iff_eq_none.2 dict)
  · rintro ⟨root, info, raw, whole, announce, found, dict, content, spelled, digest⟩
    refine ⟨root, whole, t.announce, announce, info, found, ?_⟩
    rw [if_neg (mt Option.isNone_iff_eq_none.1 (Option.isSome_iff_ne_none.1 dict)), content]
    simp only [bind_eq_ok_iff]
    refine ⟨_, rfl, raw, spelled, ?_⟩
    rw [← digest]
    rfl

/-- The octets that the digest is taken over are those that spell the `info` dictionary which was
found, so they are always there. -/
theorem rawInfo_of_entry (whole : decode data = .ok root) (found : entry root .info = .ok info) :
    ∃ d, LastField data (Bytes.ofText DescriptorKey.info.text) d ∧ rawInfo data = .ok d.text ∧
      decode d.text = .ok info := by
  obtain ⟨d, last, raw, decoded⟩ := findRaw_of_decode whole (entry_eq_ok_iff.1 found)
  exact ⟨d, last, by rw [rawInfo, raw], decoded⟩

theorem exists_info {t : Descriptor} (read : parse data = .ok t) : ∃ d info,
    LastField data (Bytes.ofText DescriptorKey.info.text) d ∧ rawInfo data = .ok d.text ∧
    decode d.text = .ok info ∧ contentOf info = .ok t.content ∧ t.infoHash = sha1 d.text := by
  obtain ⟨root, info, raw, whole, -, found, -, described, spelled, digest⟩ := parse_eq_ok_iff.1 read
  obtain ⟨d, last, again, decoded⟩ := rawInfo_of_entry whole found
  cases again.symm.trans spelled
  exact ⟨d, info, last, spelled, decoded, described, digest⟩

/-- The digest of a descriptor names its content. Where the content is read, the octets that the
digest is taken over are found, so it is never for want of these that a descriptor is refused. They
are where the value of the last field `info` stands, and decode to the dictionary that the content
is read from. Descriptors that agree in these octets have the same digest and the same content, and
where the keys of all dictionaries in them ascend, they are the written form of the dictionary. -/
theorem infoHash_names_content (data : Bytes) :
    (∀ root announce info content, decode data = .ok root →
      entryAs root .announce .text Value.text? = .ok announce → entry root .info = .ok info →
      info.entries?.isSome → contentOf info = .ok content →
      ∃ raw, rawInfo data = .ok raw ∧ parse data = .ok ⟨announce, sha1 raw, content⟩) ∧
    ∀ t, parse data = .ok t → ∃ d info,
      LastField data (Bytes.ofText DescriptorKey.info.text) d ∧ rawInfo data = .ok d.text ∧
      decode d.text = .ok info ∧ contentOf info = .ok t.content ∧ t.infoHash = sha1 d.text ∧
      (∀ data' t' d', parse data' = .ok t' →
        LastField data' (Bytes.ofText DescriptorKey.info.text) d' → d'.text = d.text →
        t'.infoHash = t.infoHash ∧ t'.content = t.content) ∧
      ((∀ depth fields, Part Derivation.children d depth (.dict fields) →
          Ascending (fields.map fun f => f.1.octets)) →
        t.infoHash = sha1 info.encode) := by
  constructor
  · intro root announce info content whole named found dict described
    obtain ⟨d, -, spelled, -⟩ := rawInfo_of_entry whole found
    exact ⟨d.text, spelled,
      parse_eq_ok_iff.2 ⟨root, info, d.text, whole, named, found, dict, described, spelled, rfl⟩⟩
  · intro t read
    obtain ⟨d, info, last, spelled, decoded, described, digest⟩ := exists_info read
    refine ⟨d, info, last, spelled, decoded, described, digest, ?_, fun ascending => ?_⟩
    · intro data' t' d' read' last' same
      obtain ⟨e, info', last'', -, decoded', described', digest'⟩ := exists_info read'
      cases last'.unique last''
      rw [same] at decoded' digest'
      cases decoded'.symm.trans decoded
      exact ⟨digest'.trans digest.symm, Except.ok.inj (described'.symm.trans described)⟩
    · obtain ⟨e, -, -, text, value⟩ := decode_eq_ok_iff.1 decoded
      cases Derivation.eq_of_text_eq text
      have canonical := Derivation.derivation_value (Derivation.canonical_iff.2 ascending)
      rw [digest, ← value, ← Value.text_derivation, canonical]

namespace Sample

def rawInfo : Bytes :=
  Bytes.ofText "d6:lengthi1e4:name1:f12:piece lengthi1e6:pieces20:aaaaaaaaaaaaaaaaaaaae"

/-- A number under `info` is followed by a dictionary under `info`, which is what counts. -/
def text : Bytes := Bytes.ofText "d8:announce1:u4:infoi0e4:info" ++ (rawInfo ++ [101])

end Sample

theorem infoHash_names_content_sample :
    ∃ t, parse Sample.text = .ok t ∧ t.infoHash = sha1 Sample.rawInfo := by
  have spelled : rawInfo Sample.text = .ok Sample.rawInfo := rfl
  obtain ⟨reads, -⟩ := infoHash_names_content Sample.text
  obtain ⟨raw, found, read⟩ := reads _ _ _ _ rfl rfl rfl rfl rfl
  exact ⟨_, read, congrArg sha1 (Except.ok.inj (found.symm.trans spelled))⟩

end Descriptor

end Swarm
