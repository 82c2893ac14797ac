import Swarm.Bencode.Encoding
import Swarm.Proofs.Tracker.Outcome

/-!
The peers of an answer. Compact records are told by writing them again (`Place.record`), and a list
of entries by which entries name a peer (`Names`) and by going through them in order (`Listed`).

Main statement: `peers_complete_in_order`. Octets that are no whole number of records are refused,
and all others are the records of the peers that are read from them. Of a list every entry that
names a peer gives that peer, and the others give nothing and spoil nothing.
-/

namespace Swarm

/-! ### Records -/

structure Place where
  ip : Ipv4
  port : UInt16

namespace Place

def record (p : Place) : Bytes := [p.ip.a, p.ip.b, p.ip.c, p.ip.d] ++ BigEndian.encode16 p.port

def peer (p : Place) : Peer := ⟨⟨.v4 p.ip, p.port, 0⟩, none⟩

theorem exists_ofRecord {b : Bytes} (full : b.length = 6) :
    ∃ p : Place, Peer.ofRecord b = p.peer ∧ p.record = b := by
  match b, full with
  | [a, b, c, d, high, low], _ =>
    refine ⟨⟨⟨a, b, c, d⟩, BigEndian.decode16 high low⟩, rfl, ?_⟩
    rw [record, BigEndian.encode16_decode16]
    rfl

theorem exists_records {count : Nat} {b : Bytes} (whole : b.length = 6 * count) :
    ∃ places : List Place, (Bytes.records 6 count b).map Peer.ofRecord = places.map peer ∧
      places.length = count ∧ places.flatMap record = b := by
  induction count generalizing b with
  | zero => exact ⟨[], rfl, rfl, (List.eq_nil_of_length_eq_zero whole).symm⟩
  | succ count ih =>
    have full : (b.take 6).length = 6 := by
      rw [List.length_take]
      omega
    obtain ⟨first, read, written⟩ := exists_ofRecord full
    obtain ⟨later, reads, number, writes⟩ := ih (b := b.drop 6) (by rw [List.length_drop]; omega)
    refine ⟨first :: later, ?_, by rw [List.length_cons, number], ?_⟩
    · rw [Bytes.records, List.map_cons, List.map_cons, read, reads]
    · rw [List.flatMap_cons, written, writes, List.take_append_drop]

end Place

namespace Tracker.Response

open Bencode (Value Entries decode)

theorem compactPeers_eq_error_iff {b : Bytes} :
    compactPeers b = .error (.raggedPeers b.length) ↔ ¬ 6 ∣ b.length := by
  refine ⟨fun refused whole => ?_, compactPeers_of_ragged⟩
  cases refused.symm.trans (compactPeers_of_whole whole)

theorem exists_places {b : Bytes} (whole : 6 ∣ b.length) : ∃ places : List Place,
    compactPeers b = .ok (places.map Place.peer) ∧ places.length = b.length / 6 ∧
      places.flatMap Place.record = b := by
  obtain ⟨places, reads, number, writes⟩ := Place.exists_records (Nat.mul_div_cancel' whole).symm
  exact ⟨places, by rw [compactPeers_of_whole whole, reads], number, writes⟩

/-! ### Entries -/

/-- An entry names a peer: it is a dictionary with the text of an address under `ip` and a number of
16 bits under `port`. The peer has an id just if there are twenty octets under `peer id`. -/
structure Names (entry : Value) (p : Peer) : Prop where
  dictionary : ∃ fields, entry = .dict fields
  ip : ∃ text, entry.get? (Bytes.ofText "ip") = some (.bytes (Bytes.ofText text)) ∧
    IpAddress.ofText? text = some p.address.ip
  port : ∃ n : Int, entry.get? (Bytes.ofText "port") = some (.integer n) ∧ 0 ≤ n ∧ n ≤ 65535 ∧
    p.address.port.toNat = n
  scope : p.address.scope = 0
  id : ∀ id, p.id? = some id ↔ entry.get? (Bytes.ofText "peer id") = some (.bytes id.1)

/-- The peers that the entries of a list name, one entry after the other. -/
inductive Listed : List Value → List Peer → Prop
  | nil : Listed [] []
  | named {entry : Value} {p : Peer} {rest : List Value} {peers : List Peer}
      (names : Names entry p) (later : Listed rest peers) : Listed (entry :: rest) (p :: peers)
  | passed {entry : Value} {rest : List Value} {peers : List Peer}
      (nameless : ∀ p, ¬ Names entry p) (later : Listed rest peers) : Listed (entry :: rest) peers

variable {entry : Value} {p : Peer} {entries : List Value} {peers : List Peer}

theorem ip_iff {ip : IpAddress} :
    ((entry.get? (Bytes.ofText "ip")).bind Value.text?).bind IpAddress.ofText? = some ip ↔
      ∃ text, entry.get? (Bytes.ofText "ip") = some (.bytes (Bytes.ofText text)) ∧
        IpAddress.ofText? text = some ip := by
  simp only [Option.bind_eq_some_iff, Value.text?_eq_some_iff, exists_eq_right]

theorem port_iff {n : Nat} :
    (entry.get? (Bytes.ofText "port")).bind Value.word64? = some n ↔
      entry.get? (Bytes.ofText "port") = some (.integer n) ∧ n < UInt64.size := by
  simp only [Option.bind_eq_some_iff, Value.word64?_eq_some_iff]
  constructor
  · rintro ⟨v, found, rfl, small⟩
    exact ⟨found, small⟩
  · rintro ⟨found, small⟩
    exact ⟨_, found, rfl, small⟩

theorem id_iff {id : PeerId} :
    ((entry.get? (Bytes.ofText "peer id")).bind Value.bytes?).bind (Bytes.fixed? 20) = some id ↔
      entry.get? (Bytes.ofText "peer id") = some (.bytes id.1) := by
  simp only [Option.bind_eq_some_iff, Value.bytes?_eq_some_iff, Bytes.fixed?_eq_some_iff,
    exists_eq_right]

theorem exists_dictionary {key : Bytes} {v : Value} (found : entry.get? key = some v) :
    ∃ fields, entry = .dict fields := by
  cases entry with
  | dict fields => exact ⟨fields, rfl⟩
  | _ => cases found

theorem listedPeer?_eq_some : listedPeer? entry = some p ↔ ∃ ip n,
    ((entry.get? (Bytes.ofText "ip")).bind Value.text?).bind IpAddress.ofText? = some ip ∧
    (entry.get? (Bytes.ofText "port")).bind Value.word64? = some n ∧ n < 65536 ∧
    p = ⟨⟨ip, UInt16.ofNat n, 0⟩,
      ((entry.get? (Bytes.ofText "peer id")).bind Value.bytes?).bind (Bytes.fixed? 20)⟩ := by
  simp only [listedPeer?, bind, Option.bind_eq_some_iff (b := p), Option.ite_none_right_eq_some,
    Option.some.injEq]
  constructor
  · rintro ⟨ip, spelled, n, numbered, small, rfl⟩
    exact ⟨ip, n, spelled, numbered, small, rfl⟩
  · rintro ⟨ip, n, spelled, numbered, small, rfl⟩
    exact ⟨ip, spelled, n, numbered, small, rfl⟩

/-- A peer is read from an entry just if the entry names it. -/
theorem listedPeer?_eq_some_iff : listedPeer? entry = some p ↔ Names entry p := by
  rw [listedPeer?_eq_some]
  constructor
  · rintro ⟨ip, n, spelled, numbered, small, rfl⟩
    obtain ⟨text, found, spells⟩ := ip_iff.1 spelled
    have port : (UInt16.ofNat n).toNat = n := UInt16.toNat_ofNat_of_lt' small
    exact {
      dictionary := exists_dictionary found
      ip := ⟨text, found, spells⟩
      port := ⟨n, (port_iff.1 numbered).1, by omega, by omega, by rw [port]⟩
      scope := rfl
      id := fun _ => id_iff }
  · intro names
    obtain ⟨⟨ip, port, scope⟩, id?⟩ := p
    obtain ⟨n, found, -, -, same⟩ := names.port
    have bound := port.toNat_lt
    have ids := Option.ext fun id => (names.id id).trans id_iff.symm
    cases same
    refine ⟨ip, port.toNat, ip_iff.2 names.ip, port_iff.2 ⟨found, ?_⟩, by omega, ?_⟩
    · exact Nat.lt_trans bound (by decide)
    · rw [UInt16.ofNat_toNat, ← ids, show scope = 0 from names.scope]

theorem listed_iff : Listed entries peers ↔ listedPeers entries = peers := by
  constructor
  · intro listed
    induction listed with
    | nil => rfl
    | named names later ih =>
      rw [listedPeers, List.filterMap_cons_some (listedPeer?_eq_some_iff.2 names)]
      exact congrArg _ ih
    | @passed entry rest peers nameless later ih =>
      have nothing : listedPeer? entry = none := by
        rw [Option.eq_none_iff_forall_ne_some]
        exact fun p read => nameless p (listedPeer?_eq_some_iff.1 read)
      rw [listedPeers, List.filterMap_cons_none nothing]
      exact ih
  · rintro rfl
    induction entries with
    | nil => exact .nil
    | cons entry rest ih =>
      cases read : listedPeer? entry with
      | none =>
        rw [listedPeers, List.filterMap_cons_none read]
        refine .passed (fun p names => ?_) ih
        cases read.symm.trans (listedPeer?_eq_some_iff.2 names)
      | some p =>
        rw [listedPeers, List.filterMap_cons_some read]
        exact .named (listedPeer?_eq_some_iff.1 read) ih

/-- Octets are refused just if they are no whole number of compact records; else they are the
records of the peers that are read from them, all in order. From a list are read the peers that its
entries name, one entry after the other, so two lists put together give the peers of the one and
then those of the other. No entry spoils an answer: if it has no reason for a failure and an
interval that is not negative, then it is read with these peers. -/
theorem peers_complete_in_order :
    (∀ b : Bytes, (compactPeers b = .error (.raggedPeers b.length) ↔ ¬ 6 ∣ b.length) ∧
      (6 ∣ b.length → ∃ places : List Place, compactPeers b = .ok (places.map Place.peer) ∧
        places.length = b.length / 6 ∧ places.flatMap Place.record = b)) ∧
    (∀ entries peers, listedPeers entries = peers ↔ Listed entries peers) ∧
    (∀ first second, listedPeers (first ++ second) = listedPeers first ++ listedPeers second) ∧
    ∀ body fields n entries, decode body = .ok (.dict fields) →
      (∀ reason, ¬ Holds fields "failure reason" reason) →
      Holds fields "interval" (.integer n) → 0 ≤ n → Holds fields "peers" (.list entries) →
      parse body = .ok ⟨listedPeers entries, .seconds (min n.toNat (2 ^ 64 - 1))⟩ := by
  refine ⟨fun b => ⟨compactPeers_eq_error_iff, exists_places⟩, fun _ _ => listed_iff.symm,
    fun first second => List.filterMap_append, ?_⟩
  intro body fields n entries read granted timed ahead given
  exact Told.parse_eq (.answered read granted timed ahead (.entries given))

namespace Sample

/-- An entry that names a peer of known id, one that is a number, and one with too high a port. -/
def mixed : List Value :=
  [.dict [(Bytes.ofText "ip", .bytes (Bytes.ofText "::1")),
      (Bytes.ofText "peer id", .bytes (Bytes.ofText "aaaaaaaaaaaaaaaaaaaa")),
      (Bytes.ofText "port", .integer 6881)],
    .integer 7,
    .dict [(Bytes.ofText "ip", .bytes (Bytes.ofText "127.0.0.1")),
      (Bytes.ofText "port", .integer 65536)]]

def fields : Entries :=
  [(Bytes.ofText "interval", .integer 60), (Bytes.ofText "peers", .list mixed)]

def body : Bytes :=
  Bytes.ofText ("d8:intervali60e5:peersl" ++
    "d2:ip3:::17:peer id20:aaaaaaaaaaaaaaaaaaaa4:porti6881ee" ++ "i7e" ++
    "d2:ip9:127.0.0.14:porti65536ee" ++ "ee")

end Sample

theorem peers_complete_in_order_sample :
    6 ∣ (Bytes.ofText "abcdefghijkl").length ∧ (∃ places : List Place,
      compactPeers (Bytes.ofText "abcdefghijkl") = .ok (places.map Place.peer) ∧
        places.length = 2) ∧
    decode Sample.body = .ok (.dict Sample.fields) ∧
    parse Sample.body = .ok ⟨listedPeers Sample.mixed, .seconds 60⟩ ∧
    (listedPeers Sample.mixed).map (·.address.text) = ["[::1]:6881"] := by
  have whole : 6 ∣ (Bytes.ofText "abcdefghijkl").length := by decide +kernel
  obtain ⟨places, read, number, -⟩ := (peers_complete_in_order.1 _).2 whole
  have decoded : decode Sample.body = .ok (.dict Sample.fields) := by rfl
  have granted : ∀ reason, ¬ Holds Sample.fields "failure reason" reason := by
    have absent : Bytes.ofText "failure reason" ∉ Sample.fields.map Prod.fst := by decide +kernel
    exact fun reason given => absent (List.mem_map_of_mem given)
  refine ⟨whole, ⟨places, read, number.trans (by decide +kernel)⟩, decoded, ?_, by decide +kernel⟩
  exact peers_complete_in_order.2.2.2 _ _ 60 _ decoded granted (.head _) (by decide)
    (.tail _ (.head _))

end Tracker.Response

end Swarm
